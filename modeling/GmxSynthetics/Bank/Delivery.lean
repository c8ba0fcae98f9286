import GmxSynthetics.Exchange.VaultFlow

/-!
# Payments that go through

A bank pays out any amount that it holds, to an account that takes the token or, where the account
refuses it, to the holding address.

* `Deliverable` — what must be set for a token, and who must take it;
* `PaidOut` — what a payment does;
* `transferOutUnwrapping_paid`, `payExecutionFee_paid` — the payments of a vault go through;
* `Payable` — what a bank needs to pay an account all that it is owed, payment by payment.
-/

namespace GmxSynthetics

open Evm

/-- The token can be sent to the account: the gas limit of its transfers is set, and the account
takes it or the holding address does. -/
structure Deliverable (env : Env) (dataStore : DataStore) (token account : Address) : Prop where
  gasLimit : dataStore.getUint (Keys.tokenTransferGasLimit token) ≠ 0
  taken : env.transferAccepted token account = true ∨
    dataStore.getAddress (.base .HOLDING_ADDRESS) ≠ 0 ∧
      env.transferAccepted token (dataStore.getAddress (.base .HOLDING_ADDRESS)) = true

/-- What payments depend on is set as before. -/
structure SamePayments (dataStore dataStore' : DataStore) : Prop where
  wnt : TokenUtils.wnt dataStore' = TokenUtils.wnt dataStore
  holding : dataStore'.getAddress (.base .HOLDING_ADDRESS) =
    dataStore.getAddress (.base .HOLDING_ADDRESS)
  gasLimit : ∀ token, dataStore'.getUint (Keys.tokenTransferGasLimit token) =
    dataStore.getUint (Keys.tokenTransferGasLimit token)
  gasUsage : GasUtils.adjustGasUsage dataStore' = GasUtils.adjustGasUsage dataStore

namespace SamePayments

variable {dataStore dataStore' dataStore'' : DataStore}

theorem of_eq (h : dataStore' = dataStore) : SamePayments dataStore dataStore' := by
  subst h
  exact ⟨rfl, rfl, fun _ => rfl, rfl⟩

theorem trans (h : SamePayments dataStore dataStore') (h' : SamePayments dataStore' dataStore'') :
    SamePayments dataStore dataStore'' where
  wnt := h'.wnt.trans h.wnt
  holding := h'.holding.trans h.holding
  gasLimit token := (h'.gasLimit token).trans (h.gasLimit token)
  gasUsage := h'.gasUsage.trans h.gasUsage

/-- Where the settings of payments are stored. -/
def slots : List Slot :=
  [.constant .WNT, .constant .HOLDING_ADDRESS, .constant .TOKEN_TRANSFER_GAS_LIMIT,
    .constant .EXECUTION_GAS_FEE_BASE_AMOUNT, .constant .EXECUTION_GAS_FEE_MULTIPLIER_FACTOR]

/-- Settings of payments are the same where they are not written. -/
theorem of_sameOff {slots' : List Slot} {w w' : World} (h : World.SameOff slots' w w')
    (hslots : ∀ slot ∈ slots, slot ∉ slots') : SamePayments w.dataStore w'.dataStore where
  wnt := h.address _ (hslots (.constant .WNT) (by decide)) _ rfl
  holding := h.address _ (hslots (.constant .HOLDING_ADDRESS) (by decide)) _ rfl
  gasLimit _ := h.uint _ (hslots (.constant .TOKEN_TRANSFER_GAS_LIMIT) (by decide)) _ rfl
  gasUsage := by
    funext gasUsed
    unfold GasUtils.adjustGasUsage
    rw [h.uint _ (hslots (.constant .EXECUTION_GAS_FEE_BASE_AMOUNT) (by decide)) _ rfl,
      h.uint _ (hslots (.constant .EXECUTION_GAS_FEE_MULTIPLIER_FACTOR) (by decide)) _ rfl]

/-- What can be sent under some settings can be under the same ones. -/
theorem deliverable (h : SamePayments dataStore dataStore') {env : Env} {token account : Address}
    (hdeliverable : Deliverable env dataStore token account) :
    Deliverable env dataStore' token account where
  gasLimit := h.gasLimit token ▸ hdeliverable.gasLimit
  taken := h.holding ▸ hdeliverable.taken

/-- The fee of a keeper is computed from the settings. -/
theorem fee (h : SamePayments dataStore dataStore') (env : Env) (executionFee : Nat) :
    GasUtils.getExecutionFeeForKeeper env dataStore' executionFee =
      GasUtils.getExecutionFeeForKeeper env dataStore executionFee := by
  unfold GasUtils.getExecutionFeeForKeeper
  rw [h.gasUsage]

end SamePayments

/-- The bank pays the account no more than an amount of each token. The account has the amounts of
the tokens that it takes; the wrapped native token it may have been sent unwrapped. -/
structure PaidOut (env : Env) (bank account : Address) (amount : Address → Nat) (w w' : World) :
    Prop where
  settings : SamePayments w.dataStore w'.dataStore
  held : ∀ token, w.balances token bank ≤ w'.balances token bank + amount token
  received : ∀ token ≠ TokenUtils.wnt w.dataStore, env.transferAccepted token account = true →
    w.balances token account + amount token ≤ w'.balances token account

variable {env : Env} {w w' w'' : World} {bank sender account token : Address} {amount : Nat}

namespace PaidOut

variable {amounts amounts' : Address → Nat}

/-- Nothing is paid where no balance changes. -/
theorem of_balances_eq (hsettings : SamePayments w.dataStore w'.dataStore)
    (h : w'.balances = w.balances) : PaidOut env bank account 0 w w' :=
  ⟨hsettings, fun _ => by simp [h], fun _ _ _ => by simp [h]⟩

theorem refl (w : World) : PaidOut env bank account 0 w w := .of_balances_eq (.of_eq rfl) rfl

/-- What is paid in two steps is paid together. -/
theorem trans (h : PaidOut env bank account amounts w w')
    (h' : PaidOut env bank account amounts' w' w'') :
    PaidOut env bank account (amounts + amounts') w w'' where
  settings := h.settings.trans h'.settings
  held token := by
    have h₁ := h.held token
    have h₂ := h'.held token
    simp only [Pi.add_apply]
    omega
  received token hne htaken := by
    have h₁ := h.received token hne htaken
    have h₂ := h'.received token (h.settings.wnt ▸ hne) htaken
    simp only [Pi.add_apply]
    omega

end PaidOut

-- ---------------------------------------------------------------------------
-- Transfers
-- ---------------------------------------------------------------------------

/-- The receiver of a transfer has the amount more. -/
theorem World.balances_moveTokens_receiver (hne : account ≠ sender) :
    (w.moveTokens token sender account amount).balances token account =
      w.balances token account + amount := by
  show (World.setBalance _ token account _).balances token account = _
  rw [World.balances_setBalance, if_pos ⟨rfl, rfl⟩, World.balances_setBalance,
    if_neg fun h => hne h.2]

namespace TokenUtils

/-- A transfer that is taken moves the tokens. -/
theorem nonRevertingTransferWithGasLimit_of_taken
    (htaken : env.transferAccepted token account = true)
    (hbalance : amount ≤ w.balances token sender) :
    nonRevertingTransferWithGasLimit env token sender account amount w =
      .ok (true, w.moveTokens token sender account amount) := by
  unfold nonRevertingTransferWithGasLimit
  simp only [↓Tx.read_bind_eq_ok, htaken, hbalance, and_self, if_true]
  rfl

/-- One that is refused moves nothing. -/
theorem nonRevertingTransferWithGasLimit_of_refused
    (hrefused : ¬ env.transferAccepted token account = true) :
    nonRevertingTransferWithGasLimit env token sender account amount w = .ok (false, w) := by
  unfold nonRevertingTransferWithGasLimit
  simp only [↓Tx.read_bind_eq_ok, hrefused]
  rfl

/-- A covered transfer goes through. -/
theorem transfer_of_deliverable
    (hdeliverable : amount ≠ 0 → Deliverable env w.dataStore token account)
    (haccount : account ≠ 0) (hne : account ≠ sender)
    (hbalance : amount ≤ w.balances token sender) :
    ∃ w', transfer env sender token account amount w = .ok ((), w') ∧
      (env.transferAccepted token account = true →
        w.balances token account + amount ≤ w'.balances token account) := by
  by_cases hzero : amount = 0
  · refine ⟨w, ?_, fun _ => by omega⟩
    rw [transfer, if_pos hzero]
    rfl
  obtain ⟨hgas, htaken⟩ := hdeliverable hzero
  unfold transfer AccountUtils.validateReceiver
  simp only [if_neg hzero, ↓Tx.lift_bind_eq_ok, ↓readStore_bind_eq_ok, Result.revertIf_eq_ok,
    haccount, hgas, not_false_eq_true, exists_const, true_and]
  by_cases hdirect : env.transferAccepted token account = true
  · refine ⟨w.moveTokens token sender account amount, ?_,
      fun _ => (World.balances_moveTokens_receiver hne).ge⟩
    rw [Tx.bind_of_ok (nonRevertingTransferWithGasLimit_of_taken hdirect hbalance)]
    rfl
  · obtain ⟨hholding, hholdingTakes⟩ := htaken.resolve_left hdirect
    refine ⟨w.moveTokens token sender (w.dataStore.getAddress (.base .HOLDING_ADDRESS)) amount, ?_,
      fun htaken => absurd htaken hdirect⟩
    rw [Tx.bind_of_ok (nonRevertingTransferWithGasLimit_of_refused hdirect)]
    simp only [Bool.false_eq_true, if_false, ↓readStore_bind_eq_ok, ↓Tx.lift_bind_eq_ok,
      Result.revertIf_eq_ok, hholding, not_false_eq_true, exists_const, true_and]
    rw [Tx.bind_of_ok (nonRevertingTransferWithGasLimit_of_taken hholdingTakes hbalance)]
    rfl

/-- Native tokens that the account refuses are wrapped again and sent as such. -/
theorem withdrawAndSendNativeToken_of_deliverable
    (hdeliverable : amount ≠ 0 → Deliverable env w.dataStore (wnt w.dataStore) account)
    (haccount : account ≠ 0) (hne : account ≠ sender)
    (hbalance : amount ≤ w.balances (wnt w.dataStore) sender) :
    ∃ w', withdrawAndSendNativeToken env sender (wnt w.dataStore) account amount w =
      .ok ((), w') := by
  by_cases hzero : amount = 0
  · refine ⟨w, ?_⟩
    rw [withdrawAndSendNativeToken, if_pos hzero]
    rfl
  unfold withdrawAndSendNativeToken depositAndSendWrappedNativeToken AccountUtils.validateReceiver
  simp only [if_neg hzero, ↓Tx.lift_bind_eq_ok, ↓Tx.read_bind_eq_ok, ↓Tx.write_bind_eq_ok,
    Result.revertIf_eq_ok, haccount, not_false_eq_true, exists_const, true_and,
    not_lt.mpr hbalance]
  by_cases htaken : env.nativeTransferAccepted account = true
  · rw [if_pos htaken]
    exact ⟨_, rfl⟩
  rw [if_neg htaken]
  simp only [↓Tx.lift_bind_eq_ok, ↓readStore_bind_eq_ok, ↓Tx.write_bind_eq_ok,
    Result.revertIf_eq_ok, not_false_eq_true, exists_const, true_and]
  let unwrapped := w.setBalance (wnt w.dataStore) sender
    (w.balances (wnt w.dataStore) sender - amount)
  let wrapped := unwrapped.setBalance (wnt w.dataStore) sender
    (unwrapped.balances (wnt w.dataStore) sender + amount)
  have hcovered : amount ≤ wrapped.balances (wnt w.dataStore) sender := by
    show amount ≤ (unwrapped.setBalance _ _ _).balances _ _
    rw [World.balances_setBalance, if_pos ⟨rfl, rfl⟩]
    exact Nat.le_add_left _ _
  have hdeliverable₁ : amount ≠ 0 → Deliverable env wrapped.dataStore (wnt w.dataStore) account :=
    hdeliverable
  exact (transfer_of_deliverable hdeliverable₁ haccount hne hcovered).imp fun _ h => h.1

end TokenUtils

-- ---------------------------------------------------------------------------
-- Banks
-- ---------------------------------------------------------------------------

namespace Bank

/-- Native tokens reach the account or the holding address, wrapped if they must be. -/
theorem transferOutNativeToken_of_deliverable
    (hdeliverable : amount ≠ 0 → Deliverable env w.dataStore (TokenUtils.wnt w.dataStore) account)
    (haccount : account ≠ 0) (hne : account ≠ bank)
    (hbalance : amount ≤ w.balances (TokenUtils.wnt w.dataStore) bank) :
    ∃ w', transferOutNativeToken env bank (TokenUtils.wnt w.dataStore) account amount w =
      .ok ((), w') := by
  unfold transferOutNativeToken
  simp only [↓Tx.lift_bind_eq_ok, Result.revertIf_eq_ok, hne, not_false_eq_true, exists_const,
    true_and]
  exact TokenUtils.withdrawAndSendNativeToken_of_deliverable hdeliverable haccount hne hbalance

/-- So does any token that can be delivered. -/
theorem transferOutUnwrapping_of_deliverable
    (hdeliverable : amount ≠ 0 → Deliverable env w.dataStore token account)
    (haccount : account ≠ 0) (hne : account ≠ bank) (hbalance : amount ≤ w.balances token bank)
    (shouldUnwrapNativeToken : Bool) :
    ∃ w', transferOutUnwrapping env bank token account amount shouldUnwrapNativeToken w =
      .ok ((), w') ∧
      (token ≠ TokenUtils.wnt w.dataStore → env.transferAccepted token account = true →
        w.balances token account + amount ≤ w'.balances token account) := by
  unfold transferOutUnwrapping
  simp only [↓readStore_bind_eq_ok]
  split_ifs with hunwrap
  · obtain ⟨rfl, -⟩ := hunwrap
    exact (transferOutNativeToken_of_deliverable hdeliverable haccount hne hbalance).imp
      fun _ h => ⟨h, fun hwnt => absurd rfl hwnt⟩
  · unfold transferOut
    simp only [↓Tx.lift_bind_eq_ok, Result.revertIf_eq_ok, hne, not_false_eq_true, exists_const,
      true_and]
    exact (TokenUtils.transfer_of_deliverable hdeliverable haccount hne hbalance).imp
      fun _ h => ⟨h.1, fun _ => h.2⟩

end Bank

namespace StrictBank

/-- A vault pays out what it holds. -/
theorem transferOutUnwrapping_paid
    (hdeliverable : amount ≠ 0 → Deliverable env w.dataStore token account)
    (haccount : account ≠ 0) (hne : account ≠ bank) (hbalance : amount ≤ w.balances token bank)
    (shouldUnwrapNativeToken : Bool) :
    ∃ w', transferOutUnwrapping env bank token account amount shouldUnwrapNativeToken w =
      .ok ((), w') ∧ PaidOut env bank account (tokenAmount token amount) w w' := by
  obtain ⟨w₁, htransfer, hreceived⟩ := Bank.transferOutUnwrapping_of_deliverable hdeliverable
    haccount hne hbalance shouldUnwrapNativeToken
  have hrun : transferOutUnwrapping env bank token account amount shouldUnwrapNativeToken w =
      .ok ((), w₁.recordBalance bank token) := by
    unfold transferOutUnwrapping
    rw [Tx.bind_of_ok htransfer]
    rfl
  refine ⟨_, hrun, ?_, ?_, ?_⟩
  · exact .of_eq <| World.SameOff.dataStore_eq
      (transferOutUnwrapping_writes env (List.mem_singleton_self _) _ _ _ _ _ hrun)
  · exact (transferOutUnwrapping_flow hrun).held
  · intro t hwnt htaken
    unfold tokenAmount
    split_ifs with ht
    · subst ht
      exact hreceived hwnt htaken
    · exact (transferOutUnwrapping_guards hne.symm _ _ _ _ hrun).held t

/-- What is sent as native tokens is paid. -/
theorem transferOutNativeToken_paid
    (hdeliverable : amount ≠ 0 → Deliverable env w.dataStore (TokenUtils.wnt w.dataStore) account)
    (haccount : account ≠ 0) (hne : account ≠ bank)
    (hbalance : amount ≤ w.balances (TokenUtils.wnt w.dataStore) bank) :
    ∃ w', transferOutNativeToken env bank account amount w = .ok ((), w') ∧
      PaidOut env bank account (tokenAmount (TokenUtils.wnt w.dataStore) amount) w w' := by
  obtain ⟨w₁, htransfer⟩ :=
    Bank.transferOutNativeToken_of_deliverable hdeliverable haccount hne hbalance
  have hrun : transferOutNativeToken env bank account amount w =
      .ok ((), w₁.recordBalance bank (TokenUtils.wnt w.dataStore)) := by
    unfold transferOutNativeToken
    simp only [↓readStore_bind_eq_ok]
    rw [Tx.bind_of_ok htransfer]
    rfl
  refine ⟨_, hrun, ?_, ?_, ?_⟩
  · exact .of_eq <| World.SameOff.dataStore_eq
      (transferOutNativeToken_writes env (List.mem_singleton_self _) _ _ _ hrun)
  · exact (transferOutNativeToken_flow hrun).held
  · intro t hwnt _
    rw [tokenAmount, if_neg hwnt]
    exact (transferOutNativeToken_guards hne.symm _ _ hrun).held t

end StrictBank

/-- The execution fee of an account that is its own keeper. -/
theorem GasUtils.payExecutionFee_paid {executionFee fee : Nat}
    (hfee : getExecutionFeeForKeeper env w.dataStore executionFee = .ok fee)
    (hdeliverable : executionFee ≠ 0 →
      Deliverable env w.dataStore (TokenUtils.wnt w.dataStore) account)
    (haccount : account ≠ 0) (hne : account ≠ bank)
    (hbalance : executionFee ≤ w.balances (TokenUtils.wnt w.dataStore) bank) :
    ∃ w', payExecutionFee env bank executionFee account account w = .ok ((), w') ∧
      PaidOut env bank account (tokenAmount (TokenUtils.wnt w.dataStore) executionFee) w w' := by
  have hle := getExecutionFeeForKeeper_le hfee
  obtain ⟨w₁, hkeeper, hpaid⟩ := StrictBank.transferOutNativeToken_paid
    (fun hfee => hdeliverable (by omega)) haccount hne (hle.trans hbalance)
  unfold payExecutionFee
  simp only [↓viewStore_bind_eq_ok, hfee, Except.ok.injEq, exists_eq_left']
  rw [Tx.bind_of_ok hkeeper]
  simp only [↓Tx.lift_bind_eq_ok, sub_eq_ok, hle, true_and, exists_eq_left]
  have hheld := hpaid.held (TokenUtils.wnt w.dataStore)
  rw [tokenAmount, if_pos rfl] at hheld
  have hsplit : tokenAmount (TokenUtils.wnt w.dataStore) fee +
      tokenAmount (TokenUtils.wnt w.dataStore) (executionFee - fee) =
        tokenAmount (TokenUtils.wnt w.dataStore) executionFee := by
    funext t
    simp only [Pi.add_apply, tokenAmount]
    split_ifs <;> omega
  split_ifs with hnone
  · refine ⟨w₁, rfl, ?_⟩
    rwa [← hsplit, hnone, tokenAmount_zero, add_zero]
  · have hdeliverable₁ : executionFee - fee ≠ 0 →
        Deliverable env w₁.dataStore (TokenUtils.wnt w₁.dataStore) account := by
      rw [hpaid.settings.wnt]
      exact fun _ => hpaid.settings.deliverable (hdeliverable (by omega))
    obtain ⟨w₂, hrefund, hrefunded⟩ := StrictBank.transferOutNativeToken_paid hdeliverable₁
      haccount hne (by rw [hpaid.settings.wnt]; omega)
    rw [hpaid.settings.wnt] at hrefunded
    exact ⟨w₂, hrefund, hsplit ▸ hpaid.trans hrefunded⟩

-- ---------------------------------------------------------------------------
-- One payment after the other
-- ---------------------------------------------------------------------------

/-- The bank holds what the account is owed and can send it, and the part of the execution fee that
is its keeper's can be computed. -/
structure Payable (env : Env) (bank account : Address) (owed : Address → Nat) (executionFee : Nat)
    (w : World) : Prop where
  account_ne : account ≠ 0
  away : account ≠ bank
  held : ∀ token, owed token ≤ w.balances token bank
  deliverable : ∀ token, owed token ≠ 0 → Deliverable env w.dataStore token account
  fee : ∃ fee, GasUtils.getExecutionFeeForKeeper env w.dataStore executionFee = .ok fee

namespace Payable

variable {first rest : Address → Nat} {executionFee : Nat}

/-- What is left can be paid after a payment. -/
theorem paid (h : Payable env bank account (first + rest) executionFee w)
    (hpaid : PaidOut env bank account first w w') :
    Payable env bank account rest executionFee w' where
  account_ne := h.account_ne
  away := h.away
  held token := by
    have h₁ := h.held token
    have h₂ := hpaid.held token
    simp only [Pi.add_apply] at h₁
    omega
  deliverable token hne := hpaid.settings.deliverable (h.deliverable token (by simp [hne]))
  fee := h.fee.imp fun fee hfee => (hpaid.settings.fee env executionFee).trans hfee

/-- A transfer that is left out where there is nothing to send. -/
theorem transferOut (h : Payable env bank account (tokenAmount token amount + rest) executionFee w)
    {c : Prop} [Decidable c] (hc : ¬ c → amount = 0) (shouldUnwrapNativeToken : Bool) :
    ∃ w', (if c then
        StrictBank.transferOutUnwrapping env bank token account amount shouldUnwrapNativeToken
      else pure ()) w = .ok ((), w') ∧
      PaidOut env bank account (tokenAmount token amount) w w' ∧
      Payable env bank account rest executionFee w' := by
  split_ifs with hsends
  · have hself : tokenAmount token amount token = amount := if_pos rfl
    have hheld := h.held token
    simp only [Pi.add_apply, hself] at hheld
    have hdeliverable : amount ≠ 0 → Deliverable env w.dataStore token account := fun hne =>
      h.deliverable token (by simp [hself, hne])
    obtain ⟨w', hrun, hpaid⟩ := StrictBank.transferOutUnwrapping_paid hdeliverable h.account_ne
      h.away (by omega) shouldUnwrapNativeToken
    exact ⟨w', hrun, hpaid, h.paid hpaid⟩
  · have hnone : PaidOut env bank account 0 w w := .refl w
    rw [hc hsends, tokenAmount_zero] at h ⊢
    exact ⟨w, rfl, hnone, h.paid hnone⟩

/-- An execution fee can be paid where its parts can. -/
theorem payExecutionFee (h : Payable env bank account
      (tokenAmount (TokenUtils.wnt w.dataStore) executionFee) executionFee w) :
    ∃ w', GasUtils.payExecutionFee env bank executionFee account account w = .ok ((), w') ∧
      PaidOut env bank account (tokenAmount (TokenUtils.wnt w.dataStore) executionFee) w w' := by
  have hself : tokenAmount (TokenUtils.wnt w.dataStore) executionFee (TokenUtils.wnt w.dataStore) =
      executionFee := if_pos rfl
  have hheld := h.held (TokenUtils.wnt w.dataStore)
  have hdeliverable := h.deliverable (TokenUtils.wnt w.dataStore)
  rw [hself] at hheld hdeliverable
  obtain ⟨fee, hfee⟩ := h.fee
  exact GasUtils.payExecutionFee_paid hfee hdeliverable h.account_ne h.away hheld

end Payable

end GmxSynthetics
