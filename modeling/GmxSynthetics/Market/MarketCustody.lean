import GmxSynthetics.Bank.VaultBalance
import GmxSynthetics.Evm.Custody
import GmxSynthetics.Market.Book
import Mathlib.Algebra.Order.Pi

/-!
# The custody of a market

A market holds tokens and owes its book. What transfers bring to an account and take out of it, and
what becomes of its surplus.

* `Receives account received` — the account holds at least that much more;
* `TokenUtils.transfer_receives` — a transfer costs its sender the amount, and brings it to a
  receiver that accepts it;
* `Gains account δ` — the surplus grows by at least `δ`: what is received less what is booked.
-/

namespace GmxSynthetics

open Evm MarketUtils

variable {env : Env} {w w' w'' : World} {account : Address} {u : Unit}

-- ---------------------------------------------------------------------------
-- What is held
-- ---------------------------------------------------------------------------

/-- From `w` to `w'` the account receives at least `received`, a payment counting as negative. -/
def Receives (account : Address) (received : Address → Int) (w w' : World) : Prop :=
  ∀ token, (w.balances token account : Int) + received token ≤ w'.balances token account

namespace Receives

variable {received received' : Address → Int}

/-- Nothing happens, nothing is received. -/
theorem refl (account : Address) (w : World) : Receives account 0 w w := by
  intro token
  rw [Pi.zero_apply, add_zero]

/-- What is received in two steps is received together. -/
theorem trans (h : Receives account received w w') (h' : Receives account received' w' w'') :
    Receives account (received + received') w w'' := by
  intro token
  have h₁ := h token
  have h₂ := h' token
  rw [Pi.add_apply]
  omega

/-- Who receives more receives less. -/
theorem mono (h : Receives account received w w')
    (hle : ∀ token, received' token ≤ received token) : Receives account received' w w' := by
  intro token
  have h₁ := h token
  have h₂ := hle token
  omega

/-- A guarded account receives at least nothing. -/
theorem of_guarded (h : Guarded account w w') : Receives account 0 w w' := by
  intro token
  have hheld : w.balances token account ≤ w'.balances token account := h.held token
  rw [Pi.zero_apply]
  omega

/-- No balance is written. -/
theorem of_sameOff {slots : List Slot} (h : World.SameOff slots w w')
    (hslots : Slot.tokens ∉ slots) : Receives account 0 w w' :=
  of_guarded (.of_sameOff h hslots)

/-- Where no token is written nothing is received. -/
theorem of_writes {α : Type} {x : Tx α} {a : α} {slots : List Slot} (hx : Writes slots x)
    (hslots : Slot.tokens ∉ slots) (h : x w = .ok (a, w')) : Receives account 0 w w' :=
  of_sameOff (hx h) hslots

/-- What a payment takes out. -/
theorem of_spends {spent : Address → Nat} (h : Spends account spent w w') :
    Receives account (fun token => -(spent token : Int)) w w' := by
  intro token
  have hheld := h.held token
  dsimp only
  omega

end Receives

/-- Every token can be transferred to the account. -/
def Env.Accepts (env : Env) (account : Address) : Prop :=
  ∀ token, env.transferAccepted token account = true

/-- Another account has no part in an entry. -/
theorem entry_apply_of_ne {market account : Address} (h : account ≠ market) (token : Address)
    (amount : Int) : entry market token amount account = 0 := by
  funext t
  rw [entry, if_neg fun heq => h heq.1]
  rfl

namespace TokenUtils

variable {sender token receiver : Address} {amount : Nat}

/-- A transfer that its receiver accepts is covered, and reaches it. -/
theorem transfer_eq_ok_of_accepted (haccepted : env.transferAccepted token receiver = true)
    (h : transfer env sender token receiver amount w = .ok (u, w')) :
    amount = 0 ∧ w' = w ∨ amount ≤ w.balances token sender ∧
      w' = w.moveTokens token sender receiver amount := by
  unfold transfer at h
  split at h
  case isTrue hzero => exact Or.inl ⟨hzero, (Tx.pure_eq_ok.mp h).2.symm⟩
  case isFalse =>
    refine Or.inr ?_
    simp only [↓Tx.lift_bind_eq_ok, ↓readStore_bind_eq_ok] at h
    obtain ⟨_, -, _, -, h⟩ := h
    by_cases hcovered : amount ≤ w.balances token sender
    · refine ⟨hcovered, ?_⟩
      unfold nonRevertingTransferWithGasLimit at h
      rw [Tx.bind_eq_ok] at h
      obtain ⟨success, w₁, hfirst, h⟩ := h
      simp only [↓Tx.read_bind_eq_ok, haccepted, hcovered, and_self, if_true,
        ↓Tx.write_bind_eq_ok, Tx.pure_eq_ok] at hfirst
      obtain ⟨rfl, rfl⟩ := hfirst
      exact (Tx.pure_eq_ok.mp h).2.symm
    · -- neither the receiver nor the holding address can be sent more than there is
      exfalso
      have hfails : ∀ {receiver : Address} {success : Bool} {w₁ : World},
          nonRevertingTransferWithGasLimit env token sender receiver amount w =
            .ok (success, w₁) → success = false ∧ w₁ = w := by
        intro receiver success w₁ hrun
        unfold nonRevertingTransferWithGasLimit at hrun
        simp only [↓Tx.read_bind_eq_ok, hcovered, and_false, if_false, Tx.pure_eq_ok] at hrun
        exact ⟨hrun.1.symm, hrun.2.symm⟩
      obtain ⟨success, w₁, hfirst, hrest⟩ := Tx.bind_eq_ok.mp h
      obtain ⟨rfl, rfl⟩ := hfails hfirst
      rw [if_neg (by decide)] at hrest
      simp only [↓readStore_bind_eq_ok, ↓Tx.lift_bind_eq_ok] at hrest
      obtain ⟨_, -, h⟩ := hrest
      obtain ⟨success, w₂, hsecond, hlast⟩ := Tx.bind_eq_ok.mp h
      obtain ⟨rfl, rfl⟩ := hfails hsecond
      obtain ⟨hrevert, -⟩ := Tx.lift_eq_ok.mp hlast
      exact absurd (Result.revertIf_eq_ok.mp hrevert) (by decide)

/-- A transfer costs its sender the amount, and brings it to a receiver that accepts it. -/
theorem transfer_receives (haccepts : env.Accepts account)
    (h : transfer env sender token receiver amount w = .ok (u, w')) :
    Receives account (entry sender token (-amount) account + entry receiver token amount account)
      w w' := by
  by_cases hreceiver : receiver = account
  · subst hreceiver
    intro t
    rcases transfer_eq_ok_of_accepted (haccepts token) h with ⟨rfl, rfl⟩ | ⟨hcovered, rfl⟩
    · simp [entry]
    · simp only [World.moveTokens, World.balances_setBalance, Pi.add_apply, entry]
      split_ifs <;> simp_all
  · refine (Receives.of_spends (transfer_spends h)).mono fun t => ?_
    rw [Pi.add_apply, entry_apply_of_ne (Ne.symm hreceiver), Pi.zero_apply, add_zero, entry,
      outflow_apply]
    split_ifs <;> simp_all

end TokenUtils

/-- What a transfer brings to its receiver: an unwrapped token is not sent as it is. -/
def arrival (receiver token : Address) (amount : Nat) (shouldUnwrapNativeToken : Bool) :
    Address → Address → Int :=
  if shouldUnwrapNativeToken then 0 else entry receiver token amount

theorem arrival_wrapped (receiver token : Address) (amount : Nat) :
    arrival receiver token amount false = entry receiver token amount := rfl

/-- What arrives is not negative. -/
theorem arrival_nonneg (receiver token : Address) (amount : Nat) (shouldUnwrapNativeToken : Bool)
    (account t : Address) :
    0 ≤ arrival receiver token amount shouldUnwrapNativeToken account t := by
  unfold arrival
  split
  · exact le_refl _
  · unfold entry
    split_ifs
    · exact Int.natCast_nonneg amount
    · exact le_refl _

/-- It is at most what is sent, less where it is unwrapped. -/
theorem arrival_le (receiver token : Address) (amount : Nat) (shouldUnwrapNativeToken : Bool)
    (account t : Address) : arrival receiver token amount shouldUnwrapNativeToken account t ≤
      entry receiver token amount account t := by
  unfold arrival
  split_ifs
  · exact arrival_nonneg receiver token amount false account t
  · exact le_refl _

/-- A bank sends no more than the amount. -/
theorem Bank.transferOut_spends {bank token receiver : Address} {amount : Nat}
    (h : transferOut env bank token receiver amount w = .ok (u, w')) :
    Spends account (outflow account bank token amount) w w' := by
  unfold transferOut at h
  simp only [↓Tx.lift_bind_eq_ok] at h
  obtain ⟨_, -, h⟩ := h
  exact TokenUtils.transfer_spends h

section Banks

variable {bank token receiver : Address} {amount : Nat} {shouldUnwrapNativeToken : Bool}
  (haccepts : env.Accepts account)

include haccepts

/-- What the bank sends the receiver has. -/
theorem Bank.transferOut_receives
    (h : transferOut env bank token receiver amount w = .ok (u, w')) :
    Receives account (entry bank token (-amount) account + entry receiver token amount account)
      w w' := by
  unfold transferOut at h
  simp only [↓Tx.lift_bind_eq_ok] at h
  obtain ⟨_, -, h⟩ := h
  exact TokenUtils.transfer_receives haccepts h

/-- Unless it is sent as native tokens. -/
theorem Bank.transferOutUnwrapping_receives
    (h : transferOutUnwrapping env bank token receiver amount shouldUnwrapNativeToken w =
      .ok (u, w')) :
    Receives account (entry bank token (-amount) account +
      arrival receiver token amount shouldUnwrapNativeToken account) w w' := by
  have hspends : Spends account (outflow account bank token amount) w w' :=
    transferOutUnwrapping_spends h
  unfold transferOutUnwrapping at h
  simp only [↓readStore_bind_eq_ok] at h
  split at h
  case isTrue hnative =>
    refine (Receives.of_spends hspends).mono fun t => ?_
    rw [arrival, if_pos hnative.2, Pi.add_apply, entry, outflow_apply]
    split_ifs <;> simp_all
  case isFalse =>
    refine (transferOut_receives haccepts h).mono fun t => ?_
    exact add_le_add (le_refl _) (arrival_le _ _ _ _ _ _)

/-- So with a bank that keeps a record. -/
theorem StrictBank.transferOutUnwrapping_receives
    (h : transferOutUnwrapping env bank token receiver amount shouldUnwrapNativeToken w =
      .ok (u, w')) :
    Receives account (entry bank token (-amount) account +
      arrival receiver token amount shouldUnwrapNativeToken account) w w' := by
  obtain ⟨_, w₁, htransfer, h⟩ := Tx.bind_eq_ok.mp h
  -- what the bank records changes no balance
  obtain rfl := Tx.write_eq_ok.mp h
  show Receives account _ w w₁
  exact Bank.transferOutUnwrapping_receives haccepts htransfer

/-- So with a bank of either kind. -/
theorem BankRef.transferOut_receives {bank : BankRef}
    (h : bank.transferOut env token receiver amount shouldUnwrapNativeToken w = .ok (u, w')) :
    Receives account (entry bank.address token (-amount) account +
      arrival receiver token amount shouldUnwrapNativeToken account) w w' := by
  unfold transferOut at h
  split at h
  · exact StrictBank.transferOutUnwrapping_receives haccepts h
  · exact Bank.transferOutUnwrapping_receives haccepts h

end Banks

-- ---------------------------------------------------------------------------
-- The surplus
-- ---------------------------------------------------------------------------

/-- What an account holds of each token, and what the books say that it owes. -/
def World.custody (w : World) (account : Address) : Custody (Address → Int) where
  held token := w.balances token account
  owed := book w.dataStore account

/-- From `w` to `w'` the surplus of the account grows by at least `δ`. -/
def Gains (account : Address) (δ : Address → Int) (w w' : World) : Prop :=
  Custody.Grows δ (w.custody account) (w'.custody account)

namespace Gains

variable {δ δ' : Address → Int}

theorem refl (account : Address) (w : World) : Gains account 0 w w := Custody.Grows.refl _

/-- What is gained in two steps is gained together. -/
theorem trans (h : Gains account δ w w') (h' : Gains account δ' w' w'') :
    Gains account (δ + δ') w w'' :=
  Custody.Grows.trans h h'

/-- Who gains more gains less. -/
theorem mono (h : Gains account δ w w') (hle : ∀ token, δ' token ≤ δ token) :
    Gains account δ' w w' :=
  Custody.Grows.mono h hle

/-- What is received and not booked. -/
theorem of_moves {received : Address → Int} {booked : Address → Address → Int}
    (hreceives : Receives account received w w') (hbooked : Moves booked w w') :
    Gains account (received - booked account) w w' :=
  Custody.Grows.of_change hreceives (funext fun token => hbooked account token)

/-- Neither balances nor books are written. -/
theorem of_sameOff {slots : List Slot} (h : World.SameOff slots w w')
    (htokens : Slot.tokens ∉ slots) (hslots : ∀ slot ∈ bookSlots, slot ∉ slots) :
    Gains account 0 w w' := by
  have hgains : Gains account _ w w' :=
    of_moves (.of_sameOff h htokens) (Moves.of_sameOff h hslots)
  rwa [Pi.zero_apply, sub_zero] at hgains

end Gains

/-- The book of an account stays: it owes what it owed. -/
def Untouched (account : Address) (w w' : World) : Prop :=
  book w'.dataStore account = book w.dataStore account

instance : IsPreorder World (Untouched account) where
  refl _ := rfl
  trans _ _ _ h h' := Eq.trans h' h

/-- An account without an entry is left as it was. -/
theorem Untouched.of_moves {δ : Address → Address → Int} (h : Moves δ w w')
    (hδ : δ account = 0) : Untouched account w w' := by
  funext token
  rw [h account token, hδ, Pi.zero_apply, add_zero]

end GmxSynthetics
