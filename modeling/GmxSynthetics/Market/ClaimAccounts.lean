import GmxSynthetics.Config.Config
import GmxSynthetics.Evm.Machine
import GmxSynthetics.Evm.Tally
import GmxSynthetics.Market.Claims

/-!
# Claimable amounts and their totals

Funding fees, ui fees, affiliate rewards and withheld collateral are owed to accounts, and a
market keeps the total of each beside the amounts. An account is credited by increments and paid
by claims; a config keeper moves the share of the withheld collateral that may be claimed.

* `Matched` — the totals are the sums of what the accounts are owed;
* `Matched.move_account`, `Matched.move_collateral` — the two ways in which a call moves them;
* `Step.matched` — every call keeps them matched;
* `claimAccounts_matched` — every run.
-/

namespace GmxSynthetics

open Evm

-- ---------------------------------------------------------------------------
-- Amounts
-- ---------------------------------------------------------------------------

/-- What an account may claim all of at any time. -/
inductive ClaimKind where
  | funding
  | uiFee
  | affiliateReward
  deriving DecidableEq, Repr

def ClaimKind.totalKey : ClaimKind → Address → Address → Key
  | funding => Keys.claimableFundingAmountKey
  | uiFee => Keys.claimableUiFeeAmountKey
  | affiliateReward => Keys.affiliateRewardKey

def ClaimKind.accountKey : ClaimKind → Address → Address → Address → Key
  | funding => Keys.claimableFundingAmountForAccountKey
  | uiFee => Keys.claimableUiFeeAmountForAccountKey
  | affiliateReward => Keys.affiliateRewardForAccountKey

/-- The values of the store that claims depend on. -/
inductive ClaimKey where
  | total (kind : ClaimKind) (market token : Address)
  | ofAccount (kind : ClaimKind) (market token account : Address)
  | collateralTotal (market token : Address)
  | claimable (market token : Address) (timeKey : Nat) (account : Address)
  | claimed (market token : Address) (timeKey : Nat) (account : Address)
  | factor (data : List Word)
  deriving DecidableEq

def ClaimKey.key : ClaimKey → Key
  | total kind market token => kind.totalKey market token
  | ofAccount kind market token account => kind.accountKey market token account
  | collateralTotal market token => Keys.claimableCollateralAmountKey market token
  | claimable market token timeKey account =>
    Keys.claimableCollateralAmountForAccountKey market token timeKey account
  | claimed market token timeKey account =>
    Keys.claimedCollateralAmountKey market token timeKey account
  | factor data => .derived .CLAIMABLE_COLLATERAL_FACTOR data

/-- Amounts of different accounts are stored under different keys. -/
theorem ClaimKey.key_injective : Function.Injective ClaimKey.key := by
  intro k k' h
  rcases k with ⟨_ | _ | _, _, _⟩ | ⟨_ | _ | _, _, _, _⟩ | _ | _ | _ | _ <;>
    rcases k' with ⟨_ | _ | _, _, _⟩ | ⟨_ | _ | _, _, _, _⟩ | _ | _ | _ | _ <;>
    simp_all [key, ClaimKind.totalKey, ClaimKind.accountKey, Keys.claimableFundingAmountKey,
      Keys.claimableUiFeeAmountKey, Keys.affiliateRewardKey,
      Keys.claimableFundingAmountForAccountKey, Keys.claimableUiFeeAmountForAccountKey,
      Keys.affiliateRewardForAccountKey, Keys.claimableCollateralAmountKey,
      Keys.claimableCollateralAmountForAccountKey, Keys.claimedCollateralAmountKey]

def claimSlots : List Slot :=
  [.constant .CLAIMABLE_FUNDING_AMOUNT, .constant .CLAIMABLE_UI_FEE_AMOUNT,
    .constant .AFFILIATE_REWARD, .constant .CLAIMABLE_COLLATERAL_AMOUNT,
    .constant .CLAIMED_COLLATERAL_AMOUNT, .constant .CLAIMABLE_COLLATERAL_FACTOR]

theorem ClaimKey.slot_mem (k : ClaimKey) : k.key.slot ∈ claimSlots := by
  rcases k with ⟨_ | _ | _, _, _⟩ | ⟨_ | _ | _, _, _, _⟩ | _ | _ | _ | _ <;>
    exact List.mem_of_elem_eq_true rfl

/-- What is stored elsewhere is no claim. -/
theorem ClaimKey.key_ne {key : Key} (h : key.slot ∉ claimSlots) (k : ClaimKey) : k.key ≠ key := by
  intro heq
  exact h (heq ▸ k.slot_mem)

/-- What an account is owed under one key. -/
inductive Entitlement where
  | account (kind : ClaimKind) (market token account : Address)
  | collateral (market token : Address) (timeKey : Nat) (account : Address)
  deriving DecidableEq

/-- The values that the store has under the keys of claims. -/
def claimAmounts (dataStore : DataStore) (k : ClaimKey) : Nat := dataStore.getUint k.key

/-- Setting an amount changes that amount. -/
theorem claimAmounts_setUint (dataStore : DataStore) (k : ClaimKey) (value : Nat) :
    claimAmounts (dataStore.setUint k.key value) =
      Function.update (claimAmounts dataStore) k value :=
  Function.update_comp_eq_of_injective _ ClaimKey.key_injective _ _

/-- What the account has yet to be paid. -/
def outstanding (amounts : ClaimKey → Nat) : Entitlement → Nat
  | .account kind market token account => amounts (.ofAccount kind market token account)
  | .collateral market token timeKey account =>
    amounts (.claimable market token timeKey account) -
      amounts (.claimed market token timeKey account)

variable {amounts : ClaimKey → Nat} {kind : ClaimKind} {market token account : Address}
  {timeKey value claimable claimed total : Nat}

/-- An account's amount becomes `value`, and the total `total`. -/
def moveAccount (amounts : ClaimKey → Nat) (kind : ClaimKind) (market token account : Address)
    (value total : Nat) : ClaimKey → Nat :=
  Function.update (Function.update amounts (.ofAccount kind market token account) value)
    (.total kind market token) total

/-- An account's withheld and claimed collateral become `claimable` and `claimed`, and the total
`total`. -/
def moveCollateral (amounts : ClaimKey → Nat) (market token : Address) (timeKey : Nat)
    (account : Address) (claimable claimed total : Nat) : ClaimKey → Nat :=
  Function.update (Function.update (Function.update amounts
    (.claimable market token timeKey account) claimable)
    (.claimed market token timeKey account) claimed) (.collateralTotal market token) total

/-- Moving an account's amount with its total changes what is outstanding for it. -/
theorem outstanding_moveAccount :
    outstanding (moveAccount amounts kind market token account value total) =
      Function.update (outstanding amounts) (.account kind market token account) value := by
  funext e
  rcases e with ⟨kind', market', token', account'⟩ | _
  · simp [moveAccount, outstanding, Function.update_apply]
  · simp [moveAccount, outstanding]

/-- So does moving claimable collateral. -/
theorem outstanding_moveCollateral :
    outstanding (moveCollateral amounts market token timeKey account claimable claimed total) =
      Function.update (outstanding amounts) (.collateral market token timeKey account)
        (claimable - claimed) := by
  funext e
  rcases e with _ | ⟨market', token', timeKey', account'⟩
  · simp [moveCollateral, outstanding]
  · by_cases hi : market' = market ∧ token' = token ∧ timeKey' = timeKey ∧ account' = account <;>
      simp [moveCollateral, outstanding, hi]

-- ---------------------------------------------------------------------------
-- Totals
-- ---------------------------------------------------------------------------

/-- Each total is the sum of what the accounts are owed, no more has been claimed of the withheld
collateral than there is, and no more than all of it may be claimed. -/
structure Matched (amounts : ClaimKey → Nat) : Prop where
  account : ∀ kind market token,
    Tally (fun account => outstanding amounts (.account kind market token account))
      (amounts (.total kind market token))
  collateral : ∀ market token,
    Tally (fun i : Nat × Address => outstanding amounts (.collateral market token i.1 i.2))
      (amounts (.collateralTotal market token))
  claimed_le : ∀ market token timeKey account,
    amounts (.claimed market token timeKey account) ≤
      amounts (.claimable market token timeKey account)
  factor_le : ∀ data, amounts (.factor data) ≤ Precision.FLOAT_PRECISION

/-- An account's amount and its total move together. -/
theorem Matched.move_account (h : Matched amounts)
    (hmove : total + outstanding amounts (.account kind market token account) =
      amounts (.total kind market token) + value) :
    Matched (moveAccount amounts kind market token account value total) := by
  constructor
  case account =>
    intro kind' market' token'
    rw [outstanding_moveAccount]
    by_cases hsame : kind' = kind ∧ market' = market ∧ token' = token
    · obtain ⟨rfl, rfl, rfl⟩ := hsame
      have hinjective : Function.Injective (Entitlement.account kind' market' token') := by
        intro account' account'' heq
        injection heq
      rw [moveAccount, Function.update_self]
      exact (h.account kind' market' token').update_at hinjective account hmove
    · have htotal : moveAccount amounts kind market token account value total
          (.total kind' market' token') = amounts (.total kind' market' token') := by
        rw [moveAccount, Function.update_of_ne (by simpa using hsame),
          Function.update_of_ne (by simp)]
      rw [htotal]
      refine (h.account kind' market' token').update_off fun account' heq => hsame ?_
      injection heq with hkind hmarket htoken
      exact ⟨hkind, hmarket, htoken⟩
  case collateral =>
    rw [outstanding_moveAccount]
    simpa [moveAccount, Function.update_apply] using h.collateral
  case claimed_le => simpa [moveAccount, Function.update_apply] using h.claimed_le
  case factor_le => simpa [moveAccount, Function.update_apply] using h.factor_le

/-- What an account may claim of the withheld collateral, what it has claimed, and the total move
together. -/
theorem Matched.move_collateral (h : Matched amounts) (hle : claimed ≤ claimable)
    (hmove : total + outstanding amounts (.collateral market token timeKey account) =
      amounts (.collateralTotal market token) + (claimable - claimed)) :
    Matched (moveCollateral amounts market token timeKey account claimable claimed total) := by
  constructor
  case account =>
    rw [outstanding_moveCollateral]
    simpa [moveCollateral, Function.update_apply] using h.account
  case collateral =>
    intro market' token'
    rw [outstanding_moveCollateral]
    by_cases hsame : market' = market ∧ token' = token
    · obtain ⟨rfl, rfl⟩ := hsame
      have hinjective : Function.Injective
          fun i : Nat × Address => Entitlement.collateral market' token' i.1 i.2 := by
        intro i j heq
        injection heq with _ _ htime haccount
        exact Prod.ext htime haccount
      rw [moveCollateral, Function.update_self]
      exact (h.collateral market' token').update_at hinjective (timeKey, account) hmove
    · have htotal : moveCollateral amounts market token timeKey account claimable claimed total
          (.collateralTotal market' token') = amounts (.collateralTotal market' token') := by
        rw [moveCollateral, Function.update_of_ne (by simpa using hsame),
          Function.update_of_ne (by simp), Function.update_of_ne (by simp)]
      rw [htotal]
      refine (h.collateral market' token').update_off fun i heq => hsame ?_
      injection heq with hmarket htoken
      exact ⟨hmarket, htoken⟩
  case claimed_le =>
    intro market' token' timeKey' account'
    by_cases hi : market' = market ∧ token' = token ∧ timeKey' = timeKey ∧ account' = account
    · simpa [moveCollateral, Function.update_apply, hi] using hle
    · simpa [moveCollateral, Function.update_apply, hi] using
        h.claimed_le market' token' timeKey' account'
  case factor_le => simpa [moveCollateral, Function.update_apply] using h.factor_le

/-- A factor is outstanding for nobody. -/
theorem outstanding_setFactor {data : List Word} :
    outstanding (Function.update amounts (.factor data) value) = outstanding amounts := by
  funext e
  rcases e with _ | _ <;> simp [outstanding]

/-- A change of a factor moves no amount. -/
theorem Matched.set_factor (h : Matched amounts) {data : List Word}
    (hvalue : value ≤ Precision.FLOAT_PRECISION) :
    Matched (Function.update amounts (.factor data) value) := by
  constructor
  case account => simpa [outstanding_setFactor, Function.update_apply] using h.account
  case collateral => simpa [outstanding_setFactor, Function.update_apply] using h.collateral
  case claimed_le => simpa [Function.update_apply] using h.claimed_le
  case factor_le =>
    intro data'
    rw [Function.update_apply]
    split
    · exact hvalue
    · exact h.factor_le data'

/-- The factor that applies is at most the whole. -/
theorem Matched.getClaimableCollateralFactor_le {dataStore : DataStore}
    (h : Matched (claimAmounts dataStore)) (market token : Address) (timeKey : Nat)
    (account : Address) :
    MarketUtils.getClaimableCollateralFactor dataStore market token timeKey account ≤
      Precision.FLOAT_PRECISION := by
  unfold MarketUtils.getClaimableCollateralFactor
  dsimp only
  split
  · exact h.factor_le [market, token, timeKey]
  · exact h.factor_le [market, token, timeKey, account]

-- ---------------------------------------------------------------------------
-- Calls
-- ---------------------------------------------------------------------------

/-- The function that credits an account. -/
def ClaimKind.increment : ClaimKind → (market token account : Address) → (delta : Nat) → Tx Unit
  | funding, market, token, account, delta =>
    MarketUtils.incrementClaimableFundingAmount market token account delta
  | uiFee, market, token, account, delta =>
    FeeUtils.incrementClaimableUiFeeAmount account market token delta
  | affiliateReward, market, token, account, delta =>
    ReferralUtils.incrementAffiliateReward market token account delta

/-- The function that pays an account. -/
def ClaimKind.claim : ClaimKind → (env : Env) → (market token account receiver : Address) → Tx Nat
  | funding, env, market, token, account, receiver =>
    MarketUtils.claimFundingFees env market token account receiver
  | uiFee, env, market, token, account, receiver =>
    FeeUtils.claimUiFees env account market token receiver
  | affiliateReward, env, market, token, account, receiver =>
    ReferralUtils.claimAffiliateReward env market token account receiver

/-- The time key under which collateral is withheld now. -/
def claimableTimeKey (env : Env) (dataStore : DataStore) : Nat :=
  env.timestamp / dataStore.getUint (.base .CLAIMABLE_COLLATERAL_TIME_DIVISOR)

variable {env : Env} {receiver : Address} {delta amount : Nat} {w w' : World} {u : Unit}

/-- Two amounts that are counted up. -/
theorem incrementTwice_amounts {k k' : ClaimKey} (hne : k' ≠ k) {next next' : Nat} {w₁ : World}
    (hfirst : DataStore.incrementUint k.key delta w = .ok (next, w₁))
    (hsecond : DataStore.incrementUint k'.key delta w₁ = .ok (next', w')) :
    claimAmounts w'.dataStore = Function.update (Function.update (claimAmounts w.dataStore) k
      (claimAmounts w.dataStore k + delta)) k' (claimAmounts w.dataStore k' + delta) := by
  have h₁ := DataStore.incrementUint_eq_ok hfirst
  have h₂ := DataStore.incrementUint_eq_ok hsecond
  rw [h₂]
  dsimp only
  rw [claimAmounts_setUint, h₁]
  dsimp only
  rw [claimAmounts_setUint]
  congr 1
  show claimAmounts (w.dataStore.setUint k.key _) k' + delta = _
  rw [claimAmounts_setUint, Function.update_of_ne hne]

/-- An amount and its total are counted up together. -/
theorem ClaimKind.increment_amounts
    (h : kind.increment market token account delta w = .ok (u, w')) :
    claimAmounts w'.dataStore = moveAccount (claimAmounts w.dataStore) kind market token account
      (claimAmounts w.dataStore (.ofAccount kind market token account) + delta)
      (claimAmounts w.dataStore (.total kind market token) + delta) := by
  have hzero : moveAccount (claimAmounts w.dataStore) kind market token account
      (claimAmounts w.dataStore (.ofAccount kind market token account) + 0)
      (claimAmounts w.dataStore (.total kind market token) + 0) = claimAmounts w.dataStore := by
    rw [moveAccount, add_zero, add_zero, Function.update_eq_self, Function.update_eq_self]
  have htwice : ∀ {next next' : Nat} {w₁ : World},
      DataStore.incrementUint (kind.accountKey market token account) delta w = .ok (next, w₁) →
      DataStore.incrementUint (kind.totalKey market token) delta w₁ = .ok (next', w') →
      claimAmounts w'.dataStore = moveAccount (claimAmounts w.dataStore) kind market token account
        (claimAmounts w.dataStore (.ofAccount kind market token account) + delta)
        (claimAmounts w.dataStore (.total kind market token) + delta) := by
    intro next next' w₁ hfirst hsecond
    have hne : ClaimKey.total kind market token ≠ .ofAccount kind market token account := by simp
    exact incrementTwice_amounts hne hfirst hsecond
  cases kind with
  | funding =>
    simp only [increment, MarketUtils.incrementClaimableFundingAmount, Tx.bind_eq_ok,
      Tx.pure_eq_ok] at h
    obtain ⟨_, w₁, hfirst, _, _, hsecond, -, rfl⟩ := h
    exact htwice hfirst hsecond
  | uiFee =>
    simp only [increment, FeeUtils.incrementClaimableUiFeeAmount] at h
    split at h
    · rename_i hdelta
      obtain ⟨-, rfl⟩ := Tx.pure_eq_ok.mp h
      rw [hdelta, hzero]
    · simp only [Tx.bind_eq_ok, Tx.pure_eq_ok] at h
      obtain ⟨_, w₁, hfirst, _, _, hsecond, -, rfl⟩ := h
      exact htwice hfirst hsecond
  | affiliateReward =>
    simp only [increment, ReferralUtils.incrementAffiliateReward] at h
    split at h
    · rename_i hdelta
      obtain ⟨-, rfl⟩ := Tx.pure_eq_ok.mp h
      rw [hdelta, hzero]
    · simp only [Tx.bind_eq_ok, Tx.pure_eq_ok] at h
      obtain ⟨_, w₁, hfirst, _, _, hsecond, -, rfl⟩ := h
      exact htwice hfirst hsecond

/-- So are those of claimable collateral. -/
theorem MarketUtils.incrementClaimableCollateralAmount_amounts
    (h : incrementClaimableCollateralAmount env market token account delta w = .ok (u, w')) :
    let timeKey := claimableTimeKey env w.dataStore
    let amounts := claimAmounts w.dataStore
    claimAmounts w'.dataStore = moveCollateral amounts market token timeKey account
      (amounts (.claimable market token timeKey account) + delta)
      (amounts (.claimed market token timeKey account))
      (amounts (.collateralTotal market token) + delta) := by
  intro timeKey amounts
  unfold incrementClaimableCollateralAmount at h
  simp only [↓readStore_bind_eq_ok, ↓Tx.lift_bind_eq_ok, div_eq_ok] at h
  obtain ⟨_, ⟨-, rfl⟩, h⟩ := h
  simp only [Tx.bind_eq_ok, Tx.pure_eq_ok] at h
  obtain ⟨_, w₁, hfirst, _, _, hsecond, -, rfl⟩ := h
  have hne : ClaimKey.collateralTotal market token ≠ .claimable market token timeKey account := by
    simp
  have htwice := incrementTwice_amounts hne hfirst hsecond
  have hclaimed : Function.update (Function.update amounts
      (.claimable market token timeKey account)
        (amounts (.claimable market token timeKey account) + delta))
      (.claimed market token timeKey account) (amounts (.claimed market token timeKey account)) =
      Function.update amounts (.claimable market token timeKey account)
        (amounts (.claimable market token timeKey account) + delta) := by
    rw [Function.update_eq_iff]
    simp
  rw [moveCollateral, hclaimed]
  exact htwice

/-- A claim empties the account's amount and lowers the total by it. -/
theorem ClaimKind.claim_amounts
    (h : kind.claim env market token account receiver w = .ok (amount, w')) :
    let amounts := claimAmounts w.dataStore
    amount = amounts (.ofAccount kind market token account) ∧
      amount ≤ amounts (.total kind market token) ∧
      claimAmounts w'.dataStore = moveAccount amounts kind market token account 0
        (amounts (.total kind market token) - amount) := by
  intro amounts
  have hclaim : claimAccountAmount env (kind.accountKey market token account)
      (kind.totalKey market token) market token receiver w = .ok (amount, w') := by
    cases kind with
    | funding => exact h
    | uiFee =>
      simp only [claim, FeeUtils.claimUiFees, ↓Tx.lift_bind_eq_ok] at h
      obtain ⟨_, -, h⟩ := h
      exact h
    | affiliateReward => exact h
  have hne : (ClaimKey.total kind market token).key ≠
      (ClaimKey.ofAccount kind market token account).key :=
    ClaimKey.key_injective.ne (by simp)
  obtain ⟨hamount, hle, hvalue⟩ := claimAccountAmount_eq_ok hne hclaim
  refine ⟨hamount, hle, ?_⟩
  have hstore : claimAmounts w'.dataStore = claimAmounts ((w.dataStore.setUint
      (ClaimKey.ofAccount kind market token account).key 0).setUint
      (ClaimKey.total kind market token).key (amounts (.total kind market token) - amount)) :=
    funext fun k => hvalue k.key
  rw [hstore, claimAmounts_setUint, claimAmounts_setUint, moveAccount]

/-- A claim of collateral takes what the factor allows and has not been claimed. -/
theorem MarketUtils.claimCollateral_amounts (hmatched : Matched (claimAmounts w.dataStore))
    (h : claimCollateral env market token timeKey account receiver w = .ok (amount, w')) :
    let amounts := claimAmounts w.dataStore
    ∃ adjusted, amounts (.claimed market token timeKey account) < adjusted ∧
      adjusted ≤ amounts (.claimable market token timeKey account) ∧
      amount = adjusted - amounts (.claimed market token timeKey account) ∧
      amount ≤ amounts (.collateralTotal market token) ∧
      claimAmounts w'.dataStore = moveCollateral amounts market token timeKey account
        (amounts (.claimable market token timeKey account)) adjusted
        (amounts (.collateralTotal market token) - amount) := by
  intro amounts
  obtain ⟨adjusted, hadjusted, hless, hamount, hle, hvalue⟩ := claimCollateral_eq_ok h
  have hstore : claimAmounts w'.dataStore = claimAmounts ((w.dataStore.setUint
      (ClaimKey.claimed market token timeKey account).key adjusted).setUint
      (ClaimKey.collateralTotal market token).key
      (amounts (.collateralTotal market token) - amount)) :=
    funext fun k => hvalue k.key
  refine ⟨adjusted, hless, ?_, hamount, hle, ?_⟩
  · exact Precision.applyFactor_le (hmatched.getClaimableCollateralFactor_le _ _ _ _) hadjusted
  · rw [hstore, claimAmounts_setUint, claimAmounts_setUint, moveCollateral,
      Function.update_eq_self]

-- ---------------------------------------------------------------------------
-- Runs
-- ---------------------------------------------------------------------------

/-- The chain state, and what every account has ever been credited and paid. -/
structure ClaimAccounts where
  world : World
  credited : Entitlement → Nat
  paid : Entitlement → Nat

namespace ClaimAccounts

def credit (s : ClaimAccounts) (w : World) (e : Entitlement) (amount : Nat) : ClaimAccounts where
  world := w
  credited := Function.update s.credited e (s.credited e + amount)
  paid := s.paid

def pay (s : ClaimAccounts) (w : World) (e : Entitlement) (amount : Nat) : ClaimAccounts where
  world := w
  credited := s.credited
  paid := Function.update s.paid e (s.paid e + amount)

/-- What credits an account, pays one, or moves a factor; and what leaves them alone. -/
inductive Call where
  | increment (kind : ClaimKind) (market token account : Address) (delta : Nat)
  | incrementClaimableCollateralAmount (env : Env) (market token account : Address) (delta : Nat)
  | claim (env : Env) (kind : ClaimKind) (market token account receiver : Address)
  | claimCollateral (env : Env) (market token : Address) (timeKey : Nat)
    (account receiver : Address)
  | setUint (baseKey : Base) (data : List Word) (value : Nat)
  | other

/-- What a call does. -/
def next : Call → ClaimAccounts → ClaimAccounts → Prop
  | .increment kind market token account delta, s, s' =>
    ∃ w, kind.increment market token account delta s.world = .ok ((), w) ∧
      s' = s.credit w (.account kind market token account) delta
  | .incrementClaimableCollateralAmount env market token account delta, s, s' =>
    ∃ w, MarketUtils.incrementClaimableCollateralAmount env market token account delta s.world =
        .ok ((), w) ∧
      s' = s.credit w
        (.collateral market token (claimableTimeKey env s.world.dataStore) account) delta
  | .claim env kind market token account receiver, s, s' =>
    ∃ amount w, kind.claim env market token account receiver s.world = .ok (amount, w) ∧
      s' = s.pay w (.account kind market token account) amount
  | .claimCollateral env market token timeKey account receiver, s, s' =>
    ∃ amount w, MarketUtils.claimCollateral env market token timeKey account receiver s.world =
        .ok (amount, w) ∧
      s' = s.pay w (.collateral market token timeKey account) amount
  | .setUint baseKey data value, s, s' =>
    ∃ dataStore, Config.setUint s.world.dataStore baseKey data value = .ok dataStore ∧
      s' = { s with world := { s.world with dataStore } }
  | .other, s, s' =>
    claimAmounts s'.world.dataStore = claimAmounts s.world.dataStore ∧
      s'.credited = s.credited ∧ s'.paid = s.paid

/-- Starts where nothing is owed. -/
def machine : Machine ClaimAccounts Call where
  init s := (∀ k, (∀ data, k ≠ .factor data) → claimAmounts s.world.dataStore k = 0) ∧
    (∀ data, claimAmounts s.world.dataStore (.factor data) ≤ Precision.FLOAT_PRECISION) ∧
    s.credited = 0 ∧ s.paid = 0
  next := next

/-- The totals match, and an account has been credited what it was paid and is still owed. -/
structure Settled (s : ClaimAccounts) : Prop where
  matched : Matched (claimAmounts s.world.dataStore)
  credited_eq : ∀ e, s.credited e = s.paid e + outstanding (claimAmounts s.world.dataStore) e

variable {s s' : ClaimAccounts} {e : Entitlement}

/-- What is credited is owed more. -/
theorem Settled.credit (h : s.Settled) {value : Nat}
    (hmatched : Matched (claimAmounts w.dataStore))
    (hvalue : value = outstanding (claimAmounts s.world.dataStore) e + amount)
    (houtstanding : outstanding (claimAmounts w.dataStore) =
      Function.update (outstanding (claimAmounts s.world.dataStore)) e value) :
    (s.credit w e amount).Settled where
  matched := hmatched
  credited_eq := by
    intro e'
    have hcredited := h.credited_eq e'
    show Function.update s.credited e (s.credited e + amount) e' = s.paid e' + _
    show _ = s.paid e' + outstanding (claimAmounts w.dataStore) e'
    rw [houtstanding, Function.update_apply, Function.update_apply]
    split
    case isTrue heq =>
      subst heq
      omega
    case isFalse => exact hcredited

/-- What is paid is owed less. -/
theorem Settled.pay (h : s.Settled) {value : Nat}
    (hmatched : Matched (claimAmounts w.dataStore))
    (hvalue : outstanding (claimAmounts s.world.dataStore) e = amount + value)
    (houtstanding : outstanding (claimAmounts w.dataStore) =
      Function.update (outstanding (claimAmounts s.world.dataStore)) e value) :
    (s.pay w e amount).Settled where
  matched := hmatched
  credited_eq := by
    intro e'
    have hcredited := h.credited_eq e'
    show s.credited e' = Function.update s.paid e (s.paid e + amount) e' + _
    show s.credited e' = _ + outstanding (claimAmounts w.dataStore) e'
    rw [houtstanding, Function.update_apply, Function.update_apply]
    split
    case isTrue heq =>
      subst heq
      omega
    case isFalse => exact hcredited

/-- At first nothing is owed. -/
theorem settled_of_init (h : machine.init s) : s.Settled := by
  obtain ⟨hzero, hfactor, hcredited, hpaid⟩ := h
  have houtstanding : outstanding (claimAmounts s.world.dataStore) = fun _ => 0 := by
    funext e
    rcases e with _ | _
    · exact hzero _ (by simp)
    · rw [outstanding, hzero _ (by simp), Nat.zero_sub]
  constructor
  case matched =>
    constructor
    case account =>
      intro kind market token
      rw [houtstanding, hzero _ (by simp)]
      exact Tally.zero
    case collateral =>
      intro market token
      rw [houtstanding, hzero _ (by simp)]
      exact Tally.zero
    case claimed_le =>
      intro market token timeKey account
      rw [hzero (.claimed market token timeKey account) (by simp)]
      exact Nat.zero_le _
    case factor_le => exact hfactor
  case credited_eq =>
    intro e
    rw [hcredited, hpaid, houtstanding]
    rfl

/-- A config keeper reaches no amount, and bounds the factor it sets. -/
theorem setUint_amounts {dataStore dataStore' : DataStore} {baseKey : Base} {data : List Word}
    {value : Nat} (h : Config.setUint dataStore baseKey data value = .ok dataStore') :
    claimAmounts dataStore' = claimAmounts dataStore ∨
      value ≤ Precision.FLOAT_PRECISION ∧
        claimAmounts dataStore' =
          Function.update (claimAmounts dataStore) (.factor data) value := by
  simp only [Config.setUint, Config._validateKey, Config._validateRange, Result.bind_eq_ok,
    Result.revertIf_eq_ok, Result.pure_eq_ok] at h
  obtain ⟨_, hallowed, _, ⟨_, -, _, -, hrange⟩, rfl⟩ := h
  by_cases hbase : baseKey = .CLAIMABLE_COLLATERAL_FACTOR
  · subst hbase
    refine .inr ⟨?_, claimAmounts_setUint dataStore (.factor data) value⟩
    by_contra hexceeds
    exact hrange ⟨by simp, not_le.mp hexceeds⟩
  · left
    have hslot : (Config.fullKey baseKey data).slot ∉ claimSlots := by
      intro hmem
      simp only [claimSlots, Config.fullKey, Key.slot_derived, List.mem_cons, List.not_mem_nil,
        Slot.constant.injEq, or_false] at hmem
      rcases hmem with rfl | rfl | rfl | rfl | rfl | rfl
      all_goals first
        | exact hbase rfl
        | exact hallowed (by decide)
    funext k
    show (dataStore.setUint (Config.fullKey baseKey data) value).getUint k.key = _
    rw [MarketUtils.getUint_setUint, if_neg (k.key_ne hslot)]
    rfl

/-- Every call keeps what is owed settled. -/
theorem Settled.next (call : Call) (h : s.Settled) (hnext : machine.next call s s') :
    s'.Settled := by
  have hmatched := h.matched
  cases call with
  | increment kind market token account delta =>
    obtain ⟨w, hincrement, rfl⟩ := hnext
    have hamounts := ClaimKind.increment_amounts hincrement
    refine h.credit ?_ rfl (by rw [hamounts, outstanding_moveAccount]; rfl)
    rw [hamounts]
    refine hmatched.move_account ?_
    rw [outstanding]
    omega
  | incrementClaimableCollateralAmount env market token account delta =>
    obtain ⟨w, hincrement, rfl⟩ := hnext
    have hamounts := MarketUtils.incrementClaimableCollateralAmount_amounts hincrement
    have hle := hmatched.claimed_le market token (claimableTimeKey env s.world.dataStore) account
    refine h.credit ?_ ?_ (by rw [hamounts, outstanding_moveCollateral])
    · rw [hamounts]
      refine hmatched.move_collateral (by omega) ?_
      rw [outstanding]
      omega
    · rw [outstanding]
      omega
  | claim env kind market token account receiver =>
    obtain ⟨amount, w, hclaim, rfl⟩ := hnext
    obtain ⟨hamount, hle, hamounts⟩ := ClaimKind.claim_amounts hclaim
    refine h.pay ?_ ?_ (by rw [hamounts, outstanding_moveAccount])
    · rw [hamounts]
      refine hmatched.move_account ?_
      rw [outstanding]
      omega
    · exact hamount.symm
  | claimCollateral env market token timeKey account receiver =>
    obtain ⟨amount, w, hclaim, rfl⟩ := hnext
    obtain ⟨adjusted, hless, hadjusted, hamount, hle, hamounts⟩ :=
      MarketUtils.claimCollateral_amounts hmatched hclaim
    refine h.pay ?_ ?_ (by rw [hamounts, outstanding_moveCollateral])
    · rw [hamounts]
      refine hmatched.move_collateral hadjusted ?_
      rw [outstanding]
      omega
    · rw [outstanding]
      omega
  | setUint baseKey data value =>
    obtain ⟨dataStore, hset, rfl⟩ := hnext
    rcases setUint_amounts hset with hsame | ⟨hvalue, hamounts⟩
    · constructor
      case matched => exact hsame ▸ hmatched
      case credited_eq => exact hsame ▸ h.credited_eq
    · constructor
      case matched =>
        show Matched (claimAmounts dataStore)
        rw [hamounts]
        exact hmatched.set_factor hvalue
      case credited_eq =>
        intro e
        show s.credited e = s.paid e + outstanding (claimAmounts dataStore) e
        rw [hamounts, outstanding_setFactor]
        exact h.credited_eq e
  | other =>
    obtain ⟨hamounts, hcredited, hpaid⟩ := hnext
    constructor
    case matched => exact hamounts ▸ hmatched
    case credited_eq =>
      rw [hcredited, hpaid, hamounts]
      exact h.credited_eq

/-- In every run all that was credited is paid or outstanding. -/
theorem Reachable.settled (h : machine.Reachable s) : s.Settled :=
  Machine.Reachable.invariant (P := Settled) (fun _ => settled_of_init)
    (fun call _ _ _ hnext hs => hs.next call hnext) h

end ClaimAccounts

open ClaimAccounts in
/-- **Claims are covered.** In every run of increments, claims and changes of the released shares,
each total is the sum of what the accounts are owed, and no more withheld collateral has been
claimed than there is. So no claim takes more off a total than is there, and no account is ever
paid more than it has been credited. -/
theorem claimAccounts_matched {s : ClaimAccounts} (h : machine.Reachable s) :
    let dataStore := s.world.dataStore
    (∀ (kind : ClaimKind) (market token : Address),
      Tally (fun account => dataStore.getUint (kind.accountKey market token account))
        (dataStore.getUint (kind.totalKey market token)) ∧
      ∀ account, dataStore.getUint (kind.accountKey market token account) ≤
        dataStore.getUint (kind.totalKey market token)) ∧
    (∀ market token : Address,
      let claimable (timeKey : Nat) (account : Address) := dataStore.getUint
        (Keys.claimableCollateralAmountForAccountKey market token timeKey account)
      let claimed (timeKey : Nat) (account : Address) := dataStore.getUint
        (Keys.claimedCollateralAmountKey market token timeKey account)
      let total := dataStore.getUint (Keys.claimableCollateralAmountKey market token)
      Tally (fun i : Nat × Address => claimable i.1 i.2 - claimed i.1 i.2) total ∧
      ∀ (timeKey : Nat) (account : Address), claimed timeKey account ≤ claimable timeKey account ∧
        ∀ adjusted, Precision.applyFactor (claimable timeKey account)
            (MarketUtils.getClaimableCollateralFactor dataStore market token timeKey account) =
              .ok adjusted →
          adjusted - claimed timeKey account ≤ total) ∧
    ∀ e, s.paid e ≤ s.credited e := by
  intro dataStore
  have hsettled := Reachable.settled h
  have hmatched := hsettled.matched
  refine ⟨?_, ?_, ?_⟩
  · intro kind market token
    exact ⟨hmatched.account kind market token, (hmatched.account kind market token).le_total⟩
  · intro market token claimable claimed total
    refine ⟨hmatched.collateral market token, ?_⟩
    intro timeKey account
    refine ⟨hmatched.claimed_le market token timeKey account, ?_⟩
    intro adjusted hadjusted
    have hle : adjusted ≤ claimable timeKey account :=
      Precision.applyFactor_le (hmatched.getClaimableCollateralFactor_le _ _ _ _) hadjusted
    calc adjusted - claimed timeKey account
        ≤ claimable timeKey account - claimed timeKey account := Nat.sub_le_sub_right hle _
      _ ≤ total := (hmatched.collateral market token).le_total (timeKey, account)
  · intro e
    have hcredited := hsettled.credited_eq e
    omega

/-- A market with balances of its long token, and nothing owed. -/
def claimWorld : World where
  dataStore :=
    let dataStore : DataStore := { DataStore.empty with
      addressSets := Function.update DataStore.empty.addressSets (.base .MARKET_LIST) [1] }
    let dataStore := dataStore.setAddress (.marketField 1 .MARKET_TOKEN) 1
    let dataStore := dataStore.setAddress (.marketField 1 .INDEX_TOKEN) 2
    let dataStore := dataStore.setAddress (.marketField 1 .LONG_TOKEN) 3
    let dataStore := dataStore.setAddress (.marketField 1 .SHORT_TOKEN) 4
    let dataStore := dataStore.setUint (Keys.tokenTransferGasLimit 3) 1
    dataStore.setUint (.base .CLAIMABLE_COLLATERAL_TIME_DIVISOR) 5
  balances token account := if token = 3 ∧ account = 1 then 100 else 0
  totalSupply _ := 0
  tokenBalances _ _ := 0

theorem claimWorld_init : ClaimAccounts.machine.init ⟨claimWorld, 0, 0⟩ := by
  have hzero : ∀ k : ClaimKey, claimAmounts claimWorld.dataStore k = 0 := by
    intro k
    show ((DataStore.empty.setUint (Keys.tokenTransferGasLimit 3) 1).setUint
      (.base .CLAIMABLE_COLLATERAL_TIME_DIVISOR) 5).getUint k.key = 0
    rw [MarketUtils.getUint_setUint, if_neg (k.key_ne (by decide)), MarketUtils.getUint_setUint,
      if_neg (k.key_ne (by decide))]
    rfl
  refine ⟨fun k _ => hzero k, fun data => ?_, rfl, rfl⟩
  rw [hzero]
  exact Nat.zero_le _

/-- Forty tokens withheld, half of them released and claimed. -/
theorem claimAccounts_matched_claimWorld :
    ∃ s, ClaimAccounts.machine.Reachable s ∧
      s.world.dataStore.getUint (Keys.claimableCollateralAmountKey 1 3) = 20 ∧
      s.paid (.collateral 1 3 2 9) = 20 ∧ s.paid (.collateral 1 3 2 9) ≤
        s.credited (.collateral 1 3 2 9) := by
  let env := Env.plain 10 fun _ => ⟨1, 1⟩
  have hrun : Result.Satisfies (do
      let (_, w₁) ← MarketUtils.incrementClaimableCollateralAmount env 1 3 9 40 claimWorld
      let dataStore ← Config.setUint w₁.dataStore .CLAIMABLE_COLLATERAL_FACTOR
        [(1 : Address), (3 : Address), (2 : Nat)] (5 * 10 ^ 29)
      MarketUtils.claimCollateral env 1 3 2 9 8 { w₁ with dataStore }) fun result =>
      result.1 = 20 ∧
        result.2.dataStore.getUint (Keys.claimableCollateralAmountKey 1 3) = 20 := by
    decide +kernel
  obtain ⟨⟨amount, w₂⟩, hok, hamount, htotal⟩ := hrun.exists
  simp only [Result.bind_eq_ok] at hok
  obtain ⟨⟨u, w₁⟩, hincrement, dataStore, hset, hclaim⟩ := hok
  have h₀ : ClaimAccounts.machine.Reachable ⟨claimWorld, 0, 0⟩ := .init claimWorld_init
  have h₁ := h₀.next (i := ClaimAccounts.Call.incrementClaimableCollateralAmount env 1 3 9 40)
    ⟨w₁, hincrement, rfl⟩
  have h₂ := h₁.next (i := ClaimAccounts.Call.setUint .CLAIMABLE_COLLATERAL_FACTOR
    [(1 : Address), (3 : Address), (2 : Nat)] (5 * 10 ^ 29)) ⟨dataStore, hset, rfl⟩
  have h₃ := h₂.next (i := ClaimAccounts.Call.claimCollateral env 1 3 2 9 8)
    ⟨amount, w₂, hclaim, rfl⟩
  refine ⟨_, h₃, htotal, ?_, (claimAccounts_matched h₃).2.2 _⟩
  show 0 + amount = 20
  rw [Nat.zero_add]
  exact hamount

end GmxSynthetics
