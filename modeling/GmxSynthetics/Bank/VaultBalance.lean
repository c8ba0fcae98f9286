import GmxSynthetics.Bank.BankFootprint
import GmxSynthetics.Evm.Escrow

/-!
# The balance of a vault

What the transfers of the protocol do to the tokens that one vault holds, and to what the vault has
recorded of them.

* `Guards vault x` — a successful run of `x` takes nothing out of the vault;
* `Spends` — a transfer takes no more out of its sender than its amount;
* `StrictBank.…_flow` — what a transfer by the vault itself records.
-/

namespace GmxSynthetics

open Evm

/-- What a vault holds, and what it has recorded of that. -/
def World.vaultBalance (w : World) (vault : Address) : Balance Address where
  held token := w.balances token vault
  recorded := w.tokenBalances vault

/-- An amount of one token. -/
def tokenAmount (token : Address) (amount : Nat) : Address → Nat :=
  fun t => if t = token then amount else 0

theorem tokenAmount_zero (token : Address) : tokenAmount token 0 = 0 := by
  funext t
  exact ite_self 0

variable {env : Env} {w w' w'' : World} {vault : Address} {u : Unit}

-- ---------------------------------------------------------------------------
-- Calls that leave a vault alone
-- ---------------------------------------------------------------------------

/-- Nothing has been taken out of the vault. -/
def Guarded (vault : Address) (w w' : World) : Prop :=
  Flow (w.vaultBalance vault) 0 0 (w'.vaultBalance vault)

instance : IsPreorder World (Guarded vault) where
  refl _ := Flow.refl _
  trans _ _ _ h h' := by
    have h₂ := h.trans h'
    rwa [add_zero] at h₂

/-- A vault that holds no less, with the same record, is as covered as before. -/
theorem Guarded.of_le (hheld : ∀ token, w.balances token vault ≤ w'.balances token vault)
    (hrecorded : w'.tokenBalances vault = w.tokenBalances vault) : Guarded vault w w' where
  covered hcovered token := by
    show w'.tokenBalances vault token ≤ _
    rw [hrecorded]
    exact (hcovered token).trans (hheld token)
  recorded _ token := by
    show _ ≤ w'.tokenBalances vault token + 0
    rw [hrecorded]
    exact Nat.le_refl _
  held token := hheld token

/-- So is one whose tokens are not written. -/
theorem Guarded.of_sameOff {slots : List Slot} (h : World.SameOff slots w w')
    (hslots : Slot.tokens ∉ slots) : Guarded vault w w' := by
  obtain ⟨hbalances, -, hrecorded⟩ := h.tokens hslots
  refine .of_le (fun token => ?_) (by rw [hrecorded])
  rw [hbalances]

/-- A successful run of `x` takes nothing out of the vault. -/
def Guards {α : Type} (vault : Address) (x : Tx α) : Prop := Tx.Keeps (Guarded vault) x

namespace Guards

variable {α β : Type}

/-- One guarded call after the other. -/
theorem bind {x : Tx α} {f : α → Tx β} (hx : Guards vault x) (hf : ∀ a, Guards vault (f a)) :
    Guards vault (x >>= f) :=
  Tx.keeps_bind hx hf

/-- Returning takes nothing. -/
theorem pure (a : α) : Guards vault (pure a : Tx α) := Tx.keeps_pure a

/-- Nor does a computation. -/
theorem lift (r : Result α) : Guards vault (liftM r : Tx α) := Tx.keeps_lift r

theorem read (f : World → α) : Guards vault (Tx.read f : Tx α) := Tx.keeps_read f

theorem viewStore (f : DataStore → Result α) : Guards vault (viewStore f) := Tx.keeps_view _

theorem readStore (f : DataStore → α) : Guards vault (readStore f) := Tx.keeps_read _

/-- A caught call has taken nothing if it failed. -/
theorem attempt {x : Tx α} (hx : Guards vault x) : Guards vault (Tx.attempt x) :=
  Tx.keeps_attempt hx

/-- Both branches guard the vault. -/
theorem ite {c : Prop} [Decidable c] {x y : Tx α} (hx : Guards vault x) (hy : Guards vault y) :
    Guards vault (if c then x else y) :=
  Tx.keeps_ite hx hy

/-- What writes no balances. -/
theorem of_writes {x : Tx α} {slots : List Slot} (hx : Writes slots x)
    (hslots : Slot.tokens ∉ slots) : Guards vault x :=
  fun _ _ _ h => .of_sameOff (hx h) hslots

end Guards

-- ---------------------------------------------------------------------------
-- What a transfer takes out
-- ---------------------------------------------------------------------------

/-- The vault holds at most `spent` less, and its record is the same. -/
structure Spends (vault : Address) (spent : Address → Nat) (w w' : World) : Prop where
  held : ∀ token, w.balances token vault ≤ w'.balances token vault + spent token
  recorded : w'.tokenBalances vault = w.tokenBalances vault

theorem Spends.refl (vault : Address) (spent : Address → Nat) (w : World) :
    Spends vault spent w w where
  held _ := Nat.le_add_right _ _
  recorded := rfl

/-- Spending nothing keeps the vault covered. -/
theorem Spends.guarded (h : Spends vault 0 w w') : Guarded vault w w' := .of_le h.held h.recorded

/-- What a transfer by `sender` takes out of a vault. -/
def outflow (vault sender token : Address) (amount : Nat) : Address → Nat :=
  if sender = vault then tokenAmount token amount else 0

theorem outflow_self (token : Address) (amount : Nat) :
    outflow vault vault token amount = tokenAmount token amount :=
  if_pos rfl

theorem outflow_of_ne {sender : Address} (hsender : sender ≠ vault) (token : Address)
    (amount : Nat) : outflow vault sender token amount = 0 :=
  if_neg hsender

theorem outflow_apply (sender token : Address) (amount : Nat) (t : Address) :
    outflow vault sender token amount t = if t = token ∧ vault = sender then amount else 0 := by
  unfold outflow tokenAmount
  by_cases hsender : sender = vault
  · simp [hsender]
  · simp [hsender, Ne.symm hsender]

theorem World.balances_setBalance (w : World) (token holder : Address) (amount : Nat)
    (t account : Address) : (w.setBalance token holder amount).balances t account =
      if t = token ∧ account = holder then amount else w.balances t account := by
  simp only [setBalance, Function.update_apply]
  by_cases ht : t = token
  · subst ht
    by_cases haccount : account = holder
    · simp [haccount]
    · simp [haccount]
  · simp [ht]

/-- Taking an amount off the balance of one holder. -/
theorem World.takeBalance_spends (w : World) (vault token sender : Address) (amount : Nat) :
    Spends vault (outflow vault sender token amount) w
      (w.setBalance token sender (w.balances token sender - amount)) where
  held t := by
    rw [balances_setBalance, outflow_apply]
    split_ifs with h
    · obtain ⟨rfl, rfl⟩ := h
      omega
    · omega
  recorded := rfl

/-- Adding to the balance of one holder. -/
theorem World.le_addBalance (w : World) (token holder : Address) (amount : Nat)
    (t account : Address) : w.balances t account ≤
      (w.setBalance token holder (w.balances token holder + amount)).balances t account := by
  rw [balances_setBalance]
  split_ifs with h
  · obtain ⟨rfl, rfl⟩ := h
    omega
  · omega

/-- A transfer takes from its sender only. -/
theorem World.moveTokens_spends (w : World) (vault token sender receiver : Address)
    (amount : Nat) :
    Spends vault (outflow vault sender token amount) w
      (w.moveTokens token sender receiver amount) where
  held t := ((w.takeBalance_spends vault token sender amount).held t).trans
    (Nat.add_le_add_right (le_addBalance _ token receiver amount t vault) _)
  recorded := rfl

/-- What is added to a balance and then moved away takes nothing. -/
theorem World.le_wrapAndMove (w : World) (token sender receiver : Address) (amount : Nat)
    (t account : Address) : w.balances t account ≤
      ((w.setBalance token sender (w.balances token sender + amount)).moveTokens token sender
        receiver amount).balances t account := by
  refine le_trans ?_ (le_addBalance _ _ _ _ _ _)
  rw [balances_setBalance, balances_setBalance, balances_setBalance]
  split_ifs with hmem hself
  · obtain ⟨rfl, rfl⟩ := hmem
    omega
  · exact absurd ⟨rfl, rfl⟩ hself
  · exact Nat.le_refl _

/-- A transfer moves its amount to some receiver, or nothing. -/
theorem TokenUtils.transfer_eq_ok {sender token receiver : Address} {amount : Nat}
    (h : transfer env sender token receiver amount w = .ok (u, w')) :
    w' = w ∨ ∃ account, w' = w.moveTokens token sender account amount := by
  have hattempt : ∀ {account : Address} {success : Bool} {w w' : World},
      nonRevertingTransferWithGasLimit env token sender account amount w = .ok (success, w') →
      (success = true → w' = w.moveTokens token sender account amount) ∧
        (success = false → w' = w) := by
    intro account success w w' hrun
    unfold nonRevertingTransferWithGasLimit at hrun
    simp only [↓Tx.read_bind_eq_ok] at hrun
    split at hrun
    · simp only [↓Tx.write_bind_eq_ok, Tx.pure_eq_ok] at hrun
      obtain ⟨rfl, rfl⟩ := hrun
      exact ⟨fun _ => rfl, fun hfalse => absurd hfalse (by decide)⟩
    · obtain ⟨rfl, rfl⟩ := Tx.pure_eq_ok.mp hrun
      exact ⟨fun htrue => absurd htrue (by decide), fun _ => rfl⟩
  unfold transfer at h
  split at h
  · exact Or.inl (Tx.pure_eq_ok.mp h).2.symm
  · simp only [↓Tx.lift_bind_eq_ok, ↓readStore_bind_eq_ok] at h
    obtain ⟨_, -, _, -, h⟩ := h
    obtain ⟨success0, w₁, hfirst, h⟩ := Tx.bind_eq_ok.mp h
    cases success0 with
    | true =>
      obtain ⟨-, rfl⟩ := Tx.pure_eq_ok.mp h
      exact Or.inr ⟨receiver, (hattempt hfirst).1 rfl⟩
    | false =>
      rw [(hattempt hfirst).2 rfl, if_neg (by decide)] at h
      simp only [↓readStore_bind_eq_ok, ↓Tx.lift_bind_eq_ok] at h
      obtain ⟨_, -, h⟩ := h
      obtain ⟨success1, w₂, hsecond, h⟩ := Tx.bind_eq_ok.mp h
      obtain ⟨hsuccess, rfl⟩ := Tx.lift_eq_ok.mp h
      have hsuccess : success1 = true := by simpa using Result.revertIf_eq_ok.mp hsuccess
      exact Or.inr ⟨_, (hattempt hsecond).1 hsuccess⟩

/-- So does a transfer of a token contract, whether or not it goes to the holding address. -/
theorem TokenUtils.transfer_spends {sender token receiver : Address} {amount : Nat}
    (h : transfer env sender token receiver amount w = .ok (u, w')) :
    Spends vault (outflow vault sender token amount) w w' := by
  rcases transfer_eq_ok h with rfl | ⟨account, rfl⟩
  · exact .refl _ _ _
  · exact w.moveTokens_spends _ _ _ _ _

/-- Unwrapping takes the amount out; what comes back wrapped is sent on. -/
theorem TokenUtils.withdrawAndSendNativeToken_spends {sender token receiver : Address}
    {amount : Nat}
    (h : withdrawAndSendNativeToken env sender token receiver amount w = .ok (u, w')) :
    Spends vault (outflow vault sender token amount) w w' := by
  unfold withdrawAndSendNativeToken at h
  split at h
  · obtain ⟨-, rfl⟩ := Tx.pure_eq_ok.mp h
    exact .refl _ _ _
  simp only [↓Tx.lift_bind_eq_ok, ↓Tx.read_bind_eq_ok, ↓Tx.write_bind_eq_ok,
    Result.revertIf_eq_ok, not_lt] at h
  obtain ⟨_, -, _, hbalance, h⟩ := h
  have hunwrapped := w.takeBalance_spends vault token sender amount
  split at h
  · obtain ⟨-, rfl⟩ := Tx.pure_eq_ok.mp h
    exact hunwrapped
  -- the native tokens that are refused are wrapped again, for the sender, and then transferred
  unfold depositAndSendWrappedNativeToken at h
  split at h
  · obtain ⟨-, rfl⟩ := Tx.pure_eq_ok.mp h
    exact hunwrapped
  simp only [↓Tx.lift_bind_eq_ok, ↓readStore_bind_eq_ok, ↓Tx.write_bind_eq_ok] at h
  obtain ⟨_, -, h⟩ := h
  rcases transfer_eq_ok h with rfl | ⟨account, rfl⟩
  · refine ⟨fun t => (hunwrapped.held t).trans (Nat.add_le_add_right ?_ _), rfl⟩
    exact World.le_addBalance _ _ _ _ _ _
  · refine ⟨fun t => (hunwrapped.held t).trans (Nat.add_le_add_right ?_ _), rfl⟩
    exact World.le_wrapAndMove _ _ _ _ _ _ _

-- ---------------------------------------------------------------------------
-- Bank.sol
-- ---------------------------------------------------------------------------

namespace Bank

variable {bank token receiver : Address} {amount : Nat} {shouldUnwrapNativeToken : Bool}

/-- The wrapped native token is taken also where it is sent unwrapped. -/
theorem transferOutNativeToken_spends
    (h : transferOutNativeToken env bank token receiver amount w = .ok (u, w')) :
    Spends vault (outflow vault bank token amount) w w' := by
  unfold transferOutNativeToken at h
  simp only [↓Tx.lift_bind_eq_ok] at h
  obtain ⟨_, -, h⟩ := h
  exact TokenUtils.withdrawAndSendNativeToken_spends h

/-- A bank sends no more than the amount. -/
theorem transferOutUnwrapping_spends
    (h : transferOutUnwrapping env bank token receiver amount shouldUnwrapNativeToken w =
      .ok (u, w')) :
    Spends vault (outflow vault bank token amount) w w' := by
  unfold transferOutUnwrapping at h
  simp only [↓readStore_bind_eq_ok] at h
  split at h
  · exact transferOutNativeToken_spends h
  · unfold transferOut at h
    simp only [↓Tx.lift_bind_eq_ok] at h
    obtain ⟨_, -, h⟩ := h
    exact TokenUtils.transfer_spends h

/-- A transfer out of another bank takes nothing from the vault. -/
theorem transferOutUnwrapping_guards (hbank : bank ≠ vault) (token receiver : Address)
    (amount : Nat) (shouldUnwrapNativeToken : Bool) :
    Guards vault
      (transferOutUnwrapping env bank token receiver amount shouldUnwrapNativeToken) := by
  intro w u w' h
  have hspends : Spends vault _ w w' := transferOutUnwrapping_spends h
  rw [outflow_of_ne hbank] at hspends
  exact hspends.guarded

end Bank

-- ---------------------------------------------------------------------------
-- StrictBank.sol
-- ---------------------------------------------------------------------------

namespace StrictBank

variable {bank token receiver : Address} {amount : Nat} {shouldUnwrapNativeToken : Bool}

/-- What a bank records of its own balance does not touch another's. -/
theorem recordBalance_guarded (hbank : bank ≠ vault) (w : World) (token : Address) :
    Guarded vault w (w.recordBalance bank token) :=
  .of_le (fun _ => Nat.le_refl _) (Function.update_of_ne hbank.symm _ _)

/-- The vault's record of the token is what it holds after it has paid. -/
theorem recordBalance_flow (h : Spends vault (tokenAmount token amount) w w') :
    Flow (w.vaultBalance vault) 0 (tokenAmount token amount)
      ((w'.recordBalance vault token).vaultBalance vault) := by
  have hrecord : ∀ t, ((w'.recordBalance vault token).vaultBalance vault).recorded t =
      if t = token then w'.balances token vault else w.tokenBalances vault t := by
    intro t
    simp only [World.recordBalance, World.vaultBalance, Function.update_self,
      Function.update_apply, h.recorded]
  constructor
  case covered =>
    intro hcovered t
    have hheld := h.held t
    have hbefore := hcovered t
    simp only [World.vaultBalance] at hbefore
    rw [hrecord]
    show _ ≤ w'.balances t vault
    split_ifs with ht
    · rw [ht]
    · rw [tokenAmount, if_neg ht] at hheld
      omega
  case recorded =>
    intro hcovered t
    have hheld := h.held t
    have hbefore := hcovered t
    simp only [World.vaultBalance] at hbefore
    rw [hrecord]
    show w.tokenBalances vault t + 0 ≤ _
    split_ifs with ht
    · rw [← ht]
      rw [← ht] at hheld
      omega
    · omega
  case held => exact h.held

/-- A vault that sends tokens records that they are gone. -/
theorem transferOutUnwrapping_flow
    (h : transferOutUnwrapping env vault token receiver amount shouldUnwrapNativeToken w =
      .ok (u, w')) :
    Flow (w.vaultBalance vault) 0 (tokenAmount token amount) (w'.vaultBalance vault) := by
  obtain ⟨_, w₁, htransfer, h⟩ := Tx.bind_eq_ok.mp h
  obtain rfl := Tx.write_eq_ok.mp h
  have hspends : Spends vault _ w w₁ := Bank.transferOutUnwrapping_spends htransfer
  rw [outflow_self] at hspends
  exact recordBalance_flow hspends

/-- Nor does another bank that keeps a record. -/
theorem transferOutUnwrapping_guards (hbank : bank ≠ vault) (token receiver : Address)
    (amount : Nat) (shouldUnwrapNativeToken : Bool) :
    Guards vault
      (transferOutUnwrapping env bank token receiver amount shouldUnwrapNativeToken) := by
  intro w u w' h
  obtain ⟨_, w₁, htransfer, h⟩ := Tx.bind_eq_ok.mp h
  obtain rfl := Tx.write_eq_ok.mp h
  exact trans_of (Guarded vault) (Bank.transferOutUnwrapping_guards hbank _ _ _ _ htransfer)
    (recordBalance_guarded hbank _ _)

/-- The wrapped native token too is recorded as gone. -/
theorem transferOutNativeToken_flow
    (h : transferOutNativeToken env vault receiver amount w = .ok (u, w')) :
    Flow (w.vaultBalance vault) 0 (tokenAmount (TokenUtils.wnt w.dataStore) amount)
      (w'.vaultBalance vault) := by
  unfold transferOutNativeToken at h
  simp only [↓readStore_bind_eq_ok] at h
  obtain ⟨_, w₁, htransfer, h⟩ := Tx.bind_eq_ok.mp h
  obtain rfl := Tx.write_eq_ok.mp h
  have hspends : Spends vault _ w w₁ := Bank.transferOutNativeToken_spends htransfer
  rw [outflow_self] at hspends
  exact recordBalance_flow hspends

/-- Or taken from another bank. -/
theorem transferOutNativeToken_guards (hbank : bank ≠ vault) (receiver : Address)
    (amount : Nat) : Guards vault (transferOutNativeToken env bank receiver amount) := by
  intro w u w' h
  unfold transferOutNativeToken at h
  simp only [↓readStore_bind_eq_ok] at h
  obtain ⟨_, w₁, htransfer, h⟩ := Tx.bind_eq_ok.mp h
  obtain rfl := Tx.write_eq_ok.mp h
  have hspends : Spends vault _ w w₁ := Bank.transferOutNativeToken_spends htransfer
  rw [outflow_of_ne hbank] at hspends
  exact trans_of (Guarded vault) hspends.guarded (recordBalance_guarded hbank _ _)

/-- A bank that has recorded no more than it holds can record what has arrived. -/
theorem recordTransferIn_eq_ok {received : Nat} :
    recordTransferIn bank token w = .ok (received, w') ↔
      w.tokenBalances bank token ≤ w.balances token bank ∧
        received = w.balances token bank - w.tokenBalances bank token ∧
        w' = w.recordBalance bank token := by
  unfold recordTransferIn
  simp only [↓Tx.read_bind_eq_ok, ↓Tx.write_bind_eq_ok, Tx.lift_eq_ok, sub_eq_ok]
  constructor
  · rintro ⟨⟨hle, hreceived⟩, rfl⟩
    exact ⟨hle, hreceived, rfl⟩
  · rintro ⟨hle, rfl, rfl⟩
    exact ⟨⟨hle, rfl⟩, rfl⟩

/-- What comes in and is recorded, the vault holds. -/
theorem recordTransferIn_flow {received : Nat}
    (h : recordTransferIn vault token w = .ok (received, w')) :
    Flow (w.vaultBalance vault) (tokenAmount token received) 0 (w'.vaultBalance vault) := by
  obtain ⟨hle, rfl, rfl⟩ := recordTransferIn_eq_ok.mp h
  have hrecord : ∀ t, ((w.recordBalance vault token).vaultBalance vault).recorded t =
      if t = token then w.balances token vault else w.tokenBalances vault t := by
    intro t
    simp only [World.recordBalance, World.vaultBalance, Function.update_self,
      Function.update_apply]
  constructor
  case covered =>
    intro hcovered t
    rw [hrecord]
    show _ ≤ w.balances t vault
    split_ifs with ht
    · rw [ht]
    · exact hcovered t
  case recorded =>
    intro _ t
    rw [hrecord]
    show w.tokenBalances vault t + tokenAmount token _ t ≤ _
    unfold tokenAmount
    split_ifs with ht
    · rw [ht]
      show _ ≤ w.balances token vault + 0
      omega
    · exact Nat.le_refl _
  case held => exact fun _ => Nat.le_refl _

/-- Recording what another bank holds is no concern of the vault. -/
theorem recordTransferIn_guards (hbank : bank ≠ vault) (token : Address) :
    Guards vault (recordTransferIn bank token) := by
  intro w received w' h
  obtain ⟨-, -, rfl⟩ := recordTransferIn_eq_ok.mp h
  exact recordBalance_guarded hbank w token

end StrictBank

/-- A transfer by either kind of bank, of another address. -/
theorem BankRef.transferOut_guards {bank : BankRef} (hbank : bank.address ≠ vault)
    (token receiver : Address) (amount : Nat) (shouldUnwrapNativeToken : Bool) :
    Guards vault (bank.transferOut env token receiver amount shouldUnwrapNativeToken) :=
  .ite (StrictBank.transferOutUnwrapping_guards hbank _ _ _ _)
    (Bank.transferOutUnwrapping_guards hbank _ _ _ _)

-- ---------------------------------------------------------------------------
-- MarketToken.sol
-- ---------------------------------------------------------------------------

namespace MarketToken

variable {marketToken account : Address} {amount : Nat}

/-- Market tokens are minted for an account. -/
theorem mint_guards (marketToken account : Address) (amount : Nat) :
    Guards vault (mint marketToken account amount) := by
  intro w u w' h
  unfold mint at h
  simp only [↓Tx.lift_bind_eq_ok, ↓Tx.read_bind_eq_ok, Tx.write_eq_ok] at h
  obtain ⟨_, -, _, -, rfl⟩ := h
  exact .of_le (fun token => World.le_addBalance _ _ _ _ _ _) rfl

/-- Burning takes market tokens from the account that holds them. -/
theorem burn_spends (h : burn marketToken account amount w = .ok (u, w')) :
    Spends vault (outflow vault account marketToken amount) w w' := by
  unfold burn at h
  simp only [↓Tx.lift_bind_eq_ok, ↓Tx.read_bind_eq_ok, Tx.write_eq_ok] at h
  obtain ⟨_, -, _, -, rfl⟩ := h
  exact ⟨(w.takeBalance_spends vault marketToken account amount).held, rfl⟩

/-- A vault that burns market tokens and then records its balance has paid them. -/
theorem burn_flow {balance : Nat} (h : burn marketToken vault amount w = .ok (u, w'))
    (hsync : StrictBank.syncTokenBalance vault marketToken w' = .ok (balance, w'')) :
    Flow (w.vaultBalance vault) 0 (tokenAmount marketToken amount) (w''.vaultBalance vault) := by
  unfold StrictBank.syncTokenBalance at hsync
  simp only [↓Tx.write_bind_eq_ok, Tx.read_eq_ok] at hsync
  obtain ⟨-, rfl⟩ := hsync
  have hspends : Spends vault _ w w' := burn_spends h
  rw [outflow_self] at hspends
  exact StrictBank.recordBalance_flow hspends

/-- Nothing from another. -/
theorem burn_guards (haccount : account ≠ vault) (marketToken : Address) (amount : Nat) :
    Guards vault (burn marketToken account amount) := by
  intro w u w' h
  have hspends : Spends vault _ w w' := burn_spends h
  rw [outflow_of_ne haccount] at hspends
  exact hspends.guarded

end MarketToken

/-- The record of another bank is another record. -/
theorem StrictBank.syncTokenBalance_guards {bank : Address} (hbank : bank ≠ vault)
    (token : Address) : Guards vault (syncTokenBalance bank token) := by
  intro w balance w' h
  unfold syncTokenBalance at h
  simp only [↓Tx.write_bind_eq_ok, Tx.read_eq_ok] at h
  obtain ⟨-, rfl⟩ := h
  exact recordBalance_guarded hbank w token

end GmxSynthetics
