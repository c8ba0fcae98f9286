import GmxSynthetics.Bank.VaultBalance
import GmxSynthetics.Gas.GasUtils

/-!
# What transfers bring at most

A transfer sends its amount to one account, be it the receiver, the holding address or, wrapped
again, a receiver that refuses native tokens. So nobody has more afterwards than before and what was
sent.

* `Sends sent` — no balance of a token grows by more than what is sent of it;
* `transferOutUnwrapping_sends`, `payExecutionFee_sends` — payments send their amount.
-/

namespace GmxSynthetics

open Evm

variable {env : Env} {w w' w'' : World} {u : Unit}

/-- From `w` to `w'` no balance of a token grows by more than `sent`. -/
def Sends (sent : Address → Nat) (w w' : World) : Prop :=
  ∀ token account, w'.balances token account ≤ w.balances token account + sent token

namespace Sends

variable {sent sent' : Address → Nat}

theorem refl (w : World) : Sends 0 w w :=
  fun _ _ => Nat.le_refl _

theorem trans (h : Sends sent w w') (h' : Sends sent' w' w'') : Sends (sent + sent') w w'' := by
  intro token account
  have h₁ := h token account
  have h₂ := h' token account
  rw [Pi.add_apply]
  omega

theorem mono (h : Sends sent w w') (hle : ∀ token, sent token ≤ sent' token) :
    Sends sent' w w' := by
  intro token account
  exact (h token account).trans (Nat.add_le_add_left (hle token) _)

/-- No balance is written. -/
theorem of_sameOff {slots : List Slot} (h : World.SameOff slots w w')
    (hslots : Slot.tokens ∉ slots) : Sends 0 w w' := by
  intro token account
  rw [(h.tokens hslots).1]
  exact Nat.le_refl _

theorem of_writes {α : Type} {x : Tx α} {a : α} {slots : List Slot} (hx : Writes slots x)
    (hslots : Slot.tokens ∉ slots) (h : x w = .ok (a, w')) : Sends 0 w w' :=
  of_sameOff (hx h) hslots

/-- A balance falls. -/
theorem of_setBalance {token holder : Address} {amount : Nat}
    (hle : amount ≤ w.balances token holder) : Sends 0 w (w.setBalance token holder amount) := by
  intro t account
  rw [World.balances_setBalance]
  split_ifs with hself
  · obtain ⟨rfl, rfl⟩ := hself
    exact hle
  · exact Nat.le_refl _

/-- Tokens are moved from one holder to another. -/
theorem of_moveTokens (w : World) (token sender receiver : Address) (amount : Nat) :
    Sends (tokenAmount token amount) w (w.moveTokens token sender receiver amount) := by
  intro t account
  unfold World.moveTokens tokenAmount
  -- what the receiver has after the sender has paid is no more than before
  have hpaid : ∀ holder, (w.setBalance token sender (w.balances token sender - amount)).balances
      token holder ≤ w.balances token holder := by
    intro holder
    rw [World.balances_setBalance]
    split_ifs with hsender
    · rw [hsender.2]
      exact Nat.sub_le _ _
    · exact Nat.le_refl _
  rw [World.balances_setBalance]
  split_ifs with hreceiver htoken htoken
  · obtain ⟨rfl, rfl⟩ := hreceiver
    exact Nat.add_le_add_right (hpaid _) _
  · exact absurd hreceiver.1 htoken
  · rw [htoken]
    exact Nat.le_add_right_of_le (hpaid _)
  · rw [World.balances_setBalance, if_neg fun hsender => htoken hsender.1]
    exact Nat.le_refl _

/-- What is taken off a balance is added to it again. -/
theorem of_rewrap {token holder : Address} {amount : Nat} (hle : amount ≤ w.balances token holder) :
    let unwrapped := w.setBalance token holder (w.balances token holder - amount)
    Sends 0 w (unwrapped.setBalance token holder (unwrapped.balances token holder + amount)) := by
  intro unwrapped t account
  simp only [unwrapped, World.balances_setBalance, and_self, if_true, Pi.zero_apply]
  split_ifs with hself
  · obtain ⟨rfl, rfl⟩ := hself
    omega
  · exact Nat.le_refl _

end Sends

-- ---------------------------------------------------------------------------
-- Transfers
-- ---------------------------------------------------------------------------

theorem TokenUtils.transfer_sends {sender token receiver : Address} {amount : Nat}
    (h : transfer env sender token receiver amount w = .ok (u, w')) :
    Sends (tokenAmount token amount) w w' := by
  rcases transfer_eq_ok h with rfl | ⟨account, rfl⟩
  · exact (Sends.refl _).mono fun _ => Nat.zero_le _
  · exact .of_moveTokens _ _ _ _ _

/-- Unwrapped tokens are no balance of anybody; what is refused is wrapped again and sent. -/
theorem TokenUtils.withdrawAndSendNativeToken_sends {sender receiver : Address} {amount : Nat}
    (h : withdrawAndSendNativeToken env sender (wnt w.dataStore) receiver amount w =
      .ok (u, w')) :
    Sends (tokenAmount (wnt w.dataStore) amount) w w' := by
  unfold withdrawAndSendNativeToken at h
  split at h
  · obtain ⟨-, rfl⟩ := Tx.pure_eq_ok.mp h
    exact (Sends.refl _).mono fun _ => Nat.zero_le _
  simp only [↓Tx.lift_bind_eq_ok, ↓Tx.read_bind_eq_ok, ↓Tx.write_bind_eq_ok,
    Result.revertIf_eq_ok, not_lt] at h
  obtain ⟨_, -, _, hbalance, h⟩ := h
  have hunwrapped : Sends 0 w (w.setBalance (wnt w.dataStore) sender
      (w.balances (wnt w.dataStore) sender - amount)) := .of_setBalance (Nat.sub_le _ _)
  split at h
  · obtain ⟨-, rfl⟩ := Tx.pure_eq_ok.mp h
    exact hunwrapped.mono fun _ => Nat.zero_le _
  unfold depositAndSendWrappedNativeToken at h
  split at h
  · obtain ⟨-, rfl⟩ := Tx.pure_eq_ok.mp h
    exact hunwrapped.mono fun _ => Nat.zero_le _
  simp only [↓Tx.lift_bind_eq_ok, ↓readStore_bind_eq_ok, ↓Tx.write_bind_eq_ok] at h
  obtain ⟨_, -, hsend⟩ := h
  have hall := (Sends.of_rewrap hbalance).trans (transfer_sends hsend)
  rwa [zero_add] at hall

/-- A payment of a bank sends its amount. -/
theorem Bank.transferOutUnwrapping_sends {bank token receiver : Address} {amount : Nat}
    {shouldUnwrapNativeToken : Bool}
    (h : transferOutUnwrapping env bank token receiver amount shouldUnwrapNativeToken w =
      .ok (u, w')) :
    Sends (tokenAmount token amount) w w' := by
  unfold transferOutUnwrapping at h
  simp only [↓readStore_bind_eq_ok] at h
  split at h
  · rename_i hwnt
    obtain ⟨rfl, -⟩ := hwnt
    simp only [transferOutNativeToken, ↓Tx.lift_bind_eq_ok] at h
    obtain ⟨_, -, h⟩ := h
    exact TokenUtils.withdrawAndSendNativeToken_sends h
  · simp only [transferOut, ↓Tx.lift_bind_eq_ok] at h
    obtain ⟨_, -, h⟩ := h
    exact TokenUtils.transfer_sends h

/-- What the vault records is no balance. -/
theorem StrictBank.transferOutNativeToken_sends {bank receiver : Address} {amount : Nat}
    (h : transferOutNativeToken env bank receiver amount w = .ok (u, w')) :
    Sends (tokenAmount (TokenUtils.wnt w.dataStore) amount) w w' := by
  unfold transferOutNativeToken at h
  simp only [↓readStore_bind_eq_ok] at h
  obtain ⟨_, w₁, hpay, h⟩ := Tx.bind_eq_ok.mp h
  simp only [Bank.transferOutNativeToken, ↓Tx.lift_bind_eq_ok] at hpay
  obtain ⟨_, -, hpay⟩ := hpay
  have hsent := TokenUtils.withdrawAndSendNativeToken_sends hpay
  obtain rfl := Tx.write_eq_ok.mp h
  exact hsent

/-- **An execution fee** is split between the keeper and the user. -/
theorem GasUtils.payExecutionFee_sends {bank keeper user : Address} {executionFee : Nat}
    (h : payExecutionFee env bank executionFee keeper user w = .ok (u, w')) :
    Sends (tokenAmount (TokenUtils.wnt w.dataStore) executionFee) w w' := by
  unfold payExecutionFee at h
  simp only [↓viewStore_bind_eq_ok] at h
  obtain ⟨executionFeeForKeeper, -, h⟩ := h
  obtain ⟨_, w₁, hkeeper, h⟩ := Tx.bind_eq_ok.mp h
  simp only [↓Tx.lift_bind_eq_ok, sub_eq_ok] at h
  obtain ⟨_, ⟨hle, rfl⟩, h⟩ := h
  have h₁ := StrictBank.transferOutNativeToken_sends hkeeper
  split at h
  · obtain ⟨-, rfl⟩ := Tx.pure_eq_ok.mp h
    refine h₁.mono fun token => ?_
    unfold tokenAmount
    split_ifs <;> omega
  · have hstore : w₁.dataStore = w.dataStore := World.SameOff.dataStore_eq
      (StrictBank.transferOutNativeToken_writes env (List.mem_singleton_self _) _ _ _ hkeeper)
    have h₂ := StrictBank.transferOutNativeToken_sends h
    rw [hstore] at h₂
    refine (h₁.trans h₂).mono fun token => ?_
    rw [Pi.add_apply]
    unfold tokenAmount
    split_ifs <;> omega

/-- Nobody has more by what is burned. -/
theorem MarketToken.burn_sends {marketToken account : Address} {amount : Nat}
    (h : burn marketToken account amount w = .ok (u, w')) : Sends 0 w w' := by
  unfold burn at h
  simp only [↓Tx.lift_bind_eq_ok, ↓Tx.read_bind_eq_ok, Tx.write_eq_ok] at h
  obtain ⟨_, -, _, -, rfl⟩ := h
  exact Sends.of_setBalance (Nat.sub_le _ _)

end GmxSynthetics
