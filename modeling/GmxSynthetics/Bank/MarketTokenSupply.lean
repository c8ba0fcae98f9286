import GmxSynthetics.Bank.BankFootprint
import GmxSynthetics.Gas.GasUtils

/-!
# The supply of market tokens

Market tokens come into being when they are minted and go when they are burned. What else moves
tokens leaves their supply.

* `KeepsSupply x` — a successful run of `x` leaves the supply of every market token;
* `MarketToken.mint_eq_ok` — what a mint adds to it.
-/

namespace GmxSynthetics

open Evm

variable {env : Env} {w w' : World} {u : Unit}

/-- The supply of every market token is the same. -/
def SameSupply (w w' : World) : Prop := w'.totalSupply = w.totalSupply

instance : IsPreorder World SameSupply where
  refl _ := rfl
  trans _ _ _ h h' := Eq.trans h' h

/-- A successful run of `x` leaves the supply of every market token. -/
def KeepsSupply {α : Type} (x : Tx α) : Prop := Tx.Keeps SameSupply x

namespace KeepsSupply

variable {α β : Type}

/-- The calls of a sequence may each be looked at alone. -/
theorem bind {x : Tx α} {f : α → Tx β} (hx : KeepsSupply x) (hf : ∀ a, KeepsSupply (f a)) :
    KeepsSupply (x >>= f) :=
  Tx.keeps_bind hx hf

/-- Returning mints nothing. -/
theorem pure (a : α) : KeepsSupply (pure a : Tx α) := Tx.keeps_pure a

/-- Nor does a computation. -/
theorem lift (r : Result α) : KeepsSupply (liftM r : Tx α) := Tx.keeps_lift r

/-- Nor does a read. -/
theorem read (f : World → α) : KeepsSupply (Tx.read f : Tx α) := Tx.keeps_read f

theorem viewStore (f : DataStore → Result α) : KeepsSupply (viewStore f) := Tx.keeps_view _

theorem readStore (f : DataStore → α) : KeepsSupply (readStore f) := Tx.keeps_read _

/-- A write that does not touch the supply. -/
theorem write {f : World → World} (hf : ∀ w, (f w).totalSupply = w.totalSupply) :
    KeepsSupply (Tx.write f : Tx Unit) := by
  intro w u w' h
  obtain rfl := Tx.write_eq_ok.mp h
  exact hf w

/-- Both branches keep the supply. -/
theorem ite {c : Prop} [Decidable c] {x y : Tx α} (hx : KeepsSupply x) (hy : KeepsSupply y) :
    KeepsSupply (if c then x else y) :=
  Tx.keeps_ite hx hy

end KeepsSupply

-- ---------------------------------------------------------------------------
-- Transfers
-- ---------------------------------------------------------------------------

variable (env)

/-- A transfer moves tokens from one account to another. -/
theorem TokenUtils.nonRevertingTransferWithGasLimit_keepsSupply (token sender receiver : Address)
    (amount : Nat) :
    KeepsSupply (nonRevertingTransferWithGasLimit env token sender receiver amount) := by
  unfold nonRevertingTransferWithGasLimit
  refine (KeepsSupply.read _).bind fun balance => .ite ?_ (.pure _)
  exact (KeepsSupply.write (by intro _; rfl)).bind fun _ => .pure _

/-- A transfer keeps the supply. -/
theorem TokenUtils.transfer_keepsSupply (sender token receiver : Address) (amount : Nat) :
    KeepsSupply (transfer env sender token receiver amount) := by
  have htransfer := nonRevertingTransferWithGasLimit_keepsSupply env
  unfold transfer
  refine .ite (.pure _) ?_
  refine (KeepsSupply.lift _).bind fun _ => (KeepsSupply.readStore _).bind fun gasLimit => ?_
  refine (KeepsSupply.lift _).bind fun _ => (htransfer _ _ _ _).bind fun succeeded => ?_
  refine .ite (.pure _) ?_
  refine (KeepsSupply.readStore _).bind fun holding => (KeepsSupply.lift _).bind fun _ => ?_
  exact (htransfer _ _ _ _).bind fun _ => .lift _

/-- Wrapping makes native tokens, not market tokens. -/
theorem TokenUtils.depositAndSendWrappedNativeToken_keepsSupply (sender receiver : Address)
    (amount : Nat) : KeepsSupply (depositAndSendWrappedNativeToken env sender receiver amount) := by
  unfold depositAndSendWrappedNativeToken
  refine .ite (.pure _) ?_
  refine (KeepsSupply.lift _).bind fun _ => (KeepsSupply.readStore _).bind fun wnt => ?_
  refine (KeepsSupply.write (by intro _; rfl)).bind fun _ => ?_
  exact transfer_keepsSupply env _ _ _ _

/-- So does unwrapping. -/
theorem TokenUtils.withdrawAndSendNativeToken_keepsSupply (sender wnt receiver : Address)
    (amount : Nat) :
    KeepsSupply (withdrawAndSendNativeToken env sender wnt receiver amount) := by
  unfold withdrawAndSendNativeToken
  refine .ite (.pure _) ?_
  refine (KeepsSupply.lift _).bind fun _ => (KeepsSupply.read _).bind fun balance => ?_
  refine (KeepsSupply.lift _).bind fun _ => ?_
  refine (KeepsSupply.write (by intro _; rfl)).bind fun _ => .ite (.pure _) ?_
  exact depositAndSendWrappedNativeToken_keepsSupply env _ _ _

/-- So does a transfer of native tokens by a bank. -/
theorem Bank.transferOutNativeToken_keepsSupply (bank token receiver : Address) (amount : Nat) :
    KeepsSupply (transferOutNativeToken env bank token receiver amount) := by
  unfold transferOutNativeToken
  refine (KeepsSupply.lift _).bind fun _ => ?_
  exact TokenUtils.withdrawAndSendNativeToken_keepsSupply env _ _ _ _

/-- So does one that may unwrap. -/
theorem Bank.transferOutUnwrapping_keepsSupply (bank token receiver : Address) (amount : Nat)
    (shouldUnwrapNativeToken : Bool) :
    KeepsSupply (transferOutUnwrapping env bank token receiver amount shouldUnwrapNativeToken) := by
  unfold transferOutUnwrapping transferOut
  refine (KeepsSupply.readStore _).bind fun wnt => .ite ?_ ?_
  · exact transferOutNativeToken_keepsSupply env _ _ _ _
  · exact (KeepsSupply.lift _).bind fun _ => TokenUtils.transfer_keepsSupply env _ _ _ _

/-- What a vault records is none of the supply. -/
theorem StrictBank.transferOutUnwrapping_keepsSupply (bank token receiver : Address)
    (amount : Nat) (shouldUnwrapNativeToken : Bool) :
    KeepsSupply (transferOutUnwrapping env bank token receiver amount shouldUnwrapNativeToken) := by
  have hpay := Bank.transferOutUnwrapping_keepsSupply env bank token receiver amount
    shouldUnwrapNativeToken
  unfold transferOutUnwrapping
  exact hpay.bind fun _ => .write (by intro _; rfl)

/-- So do those of a bank that keeps a record. -/
theorem StrictBank.transferOutNativeToken_keepsSupply (bank receiver : Address) (amount : Nat) :
    KeepsSupply (transferOutNativeToken env bank receiver amount) := by
  unfold transferOutNativeToken
  refine (KeepsSupply.readStore _).bind fun wnt => ?_
  have hpay := Bank.transferOutNativeToken_keepsSupply env bank wnt receiver amount
  exact hpay.bind fun _ => .write (by intro _; rfl)

/-- Recording what came in keeps it too. -/
theorem StrictBank.recordTransferIn_keepsSupply (bank token : Address) :
    KeepsSupply (recordTransferIn bank token) := by
  unfold recordTransferIn
  refine (KeepsSupply.read _).bind fun prevBalance => ?_
  refine (KeepsSupply.read _).bind fun nextBalance => ?_
  exact (KeepsSupply.write (by intro _; rfl)).bind fun _ => .lift _

/-- An execution fee is paid in the wrapped native token, to the keeper and back to the user. -/
theorem GasUtils.payExecutionFee_keepsSupply (bank : Address) (executionFee : Nat)
    (keeper user : Address) :
    KeepsSupply (payExecutionFee env bank executionFee keeper user) := by
  have hpay := StrictBank.transferOutNativeToken_keepsSupply env bank
  unfold payExecutionFee
  refine (KeepsSupply.viewStore _).bind fun executionFeeForKeeper => ?_
  refine (hpay _ _).bind fun _ => (KeepsSupply.lift _).bind fun refund => ?_
  exact .ite (.pure _) (hpay _ _)

-- ---------------------------------------------------------------------------
-- Mints
-- ---------------------------------------------------------------------------

/-- A mint adds its amount to the supply. -/
theorem MarketToken.mint_eq_ok {marketToken account : Address} {amount : Nat}
    (h : mint marketToken account amount w = .ok (u, w')) :
    w'.totalSupply marketToken = w.totalSupply marketToken + amount := by
  unfold mint at h
  simp only [↓Tx.lift_bind_eq_ok, ↓Tx.read_bind_eq_ok, add_eq_ok, Tx.write_eq_ok] at h
  obtain ⟨_, -, _, ⟨-, rfl⟩, rfl⟩ := h
  exact Function.update_self _ _ _

end GmxSynthetics
