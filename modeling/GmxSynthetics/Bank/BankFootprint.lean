import GmxSynthetics.Bank.Bank
import GmxSynthetics.Data.Footprint

/-!
# Footprints of token transfers

Transfers change balances only, whichever way the tokens take: as they are, wrapped or unwrapped,
to the receiver or to the holding address.
-/

namespace GmxSynthetics

variable {slots : List Slot} (env : Env)

/-- Which token is the wrapped native token is a setting. -/
theorem TokenUtils.wnt_sameOff {w w' : World} (h : World.SameOff slots w w')
    (hslots : Slot.constant .WNT ∉ slots) : wnt w'.dataStore = wnt w.dataStore :=
  h.address _ hslots _ rfl

variable (h : Slot.tokens ∈ slots)

include h

-- ---------------------------------------------------------------------------
-- Tokens
-- ---------------------------------------------------------------------------

/-- A transfer that is refused moves nothing. -/
theorem TokenUtils.nonRevertingTransferWithGasLimit_writes (token sender receiver : Address)
    (amount : Nat) :
    Writes slots (nonRevertingTransferWithGasLimit env token sender receiver amount) := by
  unfold nonRevertingTransferWithGasLimit
  refine (Writes.read _).bind fun balance => .ite ?_ (.pure _)
  have hmove : Writes slots (Evm.Tx.write (·.moveTokens token sender receiver amount) : Tx Unit) :=
    .writeTokens h (by intro _; rfl)
  exact hmove.bind fun _ => .pure _

/-- Neither does the second attempt, to the holding address, touch anything but balances. -/
theorem TokenUtils.transfer_writes (sender token receiver : Address) (amount : Nat) :
    Writes slots (transfer env sender token receiver amount) := by
  have htransfer := nonRevertingTransferWithGasLimit_writes env h
  unfold transfer
  refine .ite (.pure _) ?_
  refine (Writes.lift _).bind fun _ => (Writes.readStore _).bind fun gasLimit => ?_
  refine (Writes.lift _).bind fun _ => (htransfer _ _ _ _).bind fun succeeded => ?_
  refine .ite (.pure _) ?_
  refine (Writes.readStore _).bind fun holdingAddress => (Writes.lift _).bind fun _ => ?_
  exact (htransfer _ _ _ _).bind fun _ => .lift _

/-- Wrapping native tokens and sending them on touches the token ledger alone. -/
theorem TokenUtils.depositAndSendWrappedNativeToken_writes (sender receiver : Address)
    (amount : Nat) :
    Writes slots (depositAndSendWrappedNativeToken env sender receiver amount) := by
  unfold depositAndSendWrappedNativeToken
  refine .ite (.pure _) ?_
  refine (Writes.lift _).bind fun _ => (Writes.readStore _).bind fun wnt => ?_
  refine (Writes.writeTokens h (by intro _; rfl)).bind fun _ => ?_
  exact transfer_writes env h _ _ _ _

/-- Native tokens that are refused are wrapped again. -/
theorem TokenUtils.withdrawAndSendNativeToken_writes (sender wnt receiver : Address)
    (amount : Nat) : Writes slots (withdrawAndSendNativeToken env sender wnt receiver amount) := by
  unfold withdrawAndSendNativeToken
  refine .ite (.pure _) ?_
  refine (Writes.lift _).bind fun _ => (Writes.read _).bind fun balance => ?_
  refine (Writes.lift _).bind fun _ => (Writes.writeTokens h (by intro _; rfl)).bind fun _ => ?_
  exact .ite (.pure _) (depositAndSendWrappedNativeToken_writes env h _ _ _)

-- ---------------------------------------------------------------------------
-- Banks
-- ---------------------------------------------------------------------------

/-- A bank that sends a token out touches no record of the exchange. -/
theorem Bank.transferOut_writes (bank token receiver : Address) (amount : Nat) :
    Writes slots (transferOut env bank token receiver amount) := by
  unfold transferOut
  refine (Writes.lift _).bind fun _ => ?_
  exact TokenUtils.transfer_writes env h _ _ _ _

/-- A receiver that refuses native tokens gets wrapped ones, on the same ledger. -/
theorem Bank.transferOutNativeToken_writes (bank token receiver : Address) (amount : Nat) :
    Writes slots (transferOutNativeToken env bank token receiver amount) := by
  unfold transferOutNativeToken
  refine (Writes.lift _).bind fun _ => ?_
  exact TokenUtils.withdrawAndSendNativeToken_writes env h _ _ _ _

/-- The wrapped native token takes another way than every other one. -/
theorem Bank.transferOutUnwrapping_writes (bank token receiver : Address) (amount : Nat)
    (shouldUnwrapNativeToken : Bool) :
    Writes slots
      (transferOutUnwrapping env bank token receiver amount shouldUnwrapNativeToken) := by
  unfold transferOutUnwrapping
  refine (Writes.readStore _).bind fun wnt => .ite ?_ ?_
  · exact transferOutNativeToken_writes env h _ _ _ _
  · exact transferOut_writes env h _ _ _ _

/-- What a vault records is one of its balances. -/
theorem StrictBank._afterTransferOut_writes (bank token : Address) :
    Writes slots (_afterTransferOut bank token) :=
  .writeTokens h (by intro _; rfl)

/-- Sending out a token, unwrapped on request, then syncing the bank's recorded balance. -/
theorem StrictBank.transferOutUnwrapping_writes (bank token receiver : Address) (amount : Nat)
    (shouldUnwrapNativeToken : Bool) :
    Writes slots
      (transferOutUnwrapping env bank token receiver amount shouldUnwrapNativeToken) := by
  have hpay := Bank.transferOutUnwrapping_writes env h bank token receiver amount
    shouldUnwrapNativeToken
  unfold transferOutUnwrapping
  exact hpay.bind fun _ => _afterTransferOut_writes h _ _

/-- The same for a bank's wrapped native tokens. -/
theorem StrictBank.transferOutNativeToken_writes (bank receiver : Address) (amount : Nat) :
    Writes slots (transferOutNativeToken env bank receiver amount) := by
  unfold transferOutNativeToken
  refine (Writes.readStore _).bind fun wnt => ?_
  have hpay := Bank.transferOutNativeToken_writes env h bank wnt receiver amount
  exact hpay.bind fun _ => _afterTransferOut_writes h _ _

/-- The balances a bank has recorded are part of the token ledger. -/
theorem StrictBank.recordTransferIn_writes (bank token : Address) :
    Writes slots (recordTransferIn bank token) := by
  unfold recordTransferIn
  refine (Writes.read _).bind fun prevBalance => (Writes.read _).bind fun nextBalance => ?_
  exact (Writes.writeTokens h (by intro _; rfl)).bind fun _ => .lift _

/-- Syncing only copies a balance into the bank's record. -/
theorem StrictBank.syncTokenBalance_writes (bank token : Address) :
    Writes slots (syncTokenBalance bank token) := by
  unfold syncTokenBalance
  exact (Writes.writeTokens h (by intro _; rfl)).bind fun _ => .read _

/-- Both kinds of banks. -/
theorem BankRef.transferOut_writes (bank : BankRef) (token receiver : Address) (amount : Nat)
    (shouldUnwrapNativeToken : Bool) :
    Writes slots (bank.transferOut env token receiver amount shouldUnwrapNativeToken) := by
  unfold transferOut
  refine .ite ?_ ?_
  · exact StrictBank.transferOutUnwrapping_writes env h _ _ _ _ _
  · exact Bank.transferOutUnwrapping_writes env h _ _ _ _ _

-- ---------------------------------------------------------------------------
-- Market tokens
-- ---------------------------------------------------------------------------

/-- The supply of market tokens counts as a balance. -/
theorem MarketToken.mint_writes (marketToken account : Address) (amount : Nat) :
    Writes slots (mint marketToken account amount) := by
  unfold mint
  refine (Writes.lift _).bind fun _ => (Writes.read _).bind fun supply => ?_
  exact (Writes.lift _).bind fun _ => .writeTokens h (by intro _; rfl)

/-- The supply of a market token is part of the token ledger too. -/
theorem MarketToken.burn_writes (marketToken account : Address) (amount : Nat) :
    Writes slots (burn marketToken account amount) := by
  unfold burn
  refine (Writes.lift _).bind fun _ => (Writes.read _).bind fun balance => ?_
  exact (Writes.lift _).bind fun _ => .writeTokens h (by intro _; rfl)

end GmxSynthetics
