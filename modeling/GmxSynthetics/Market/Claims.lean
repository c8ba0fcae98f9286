import GmxSynthetics.Bank.BankFootprint
import GmxSynthetics.Market.Book

/-!
# Claiming

What an account takes out of a market: funding fees, ui fees, affiliate rewards, and the
share of its withheld collateral that has been released. A claim returns the amount that the
Solidity function emits.
-/

namespace GmxSynthetics

open Evm

/-- The overload of `validateMarketTokenBalance` on an address. -/
def MarketUtils.validateMarketTokenBalanceOf (w : World) (market : Address) : Result Unit := do
  let market ← getEnabledMarket w.dataStore market
  validateMarketTokenBalance w market

/-- Pays out all of an account's amount, and takes it off the market's total. -/
def claimAccountAmount (env : Env) (accountKey totalKey : Key) (market token receiver : Address) :
    Tx Nat := do
  let amount ← readStore (·.getUint accountKey)
  writeStore (·.setUint accountKey 0)
  let _ ← DataStore.decrementUint totalKey amount
  Bank.transferOut env market token receiver amount
  Tx.view fun w => MarketUtils.validateMarketTokenBalanceOf w market
  pure amount

def MarketUtils.claimFundingFees (env : Env) (market token account receiver : Address) : Tx Nat :=
  claimAccountAmount env (Keys.claimableFundingAmountForAccountKey market token account)
    (Keys.claimableFundingAmountKey market token) market token receiver

def FeeUtils.claimUiFees (env : Env) (uiFeeReceiver market token receiver : Address) :
    Tx Nat := do
  AccountUtils.validateReceiver receiver
  claimAccountAmount env (Keys.claimableUiFeeAmountForAccountKey market token uiFeeReceiver)
    (Keys.claimableUiFeeAmountKey market token) market token receiver

def ReferralUtils.claimAffiliateReward (env : Env) (market token account receiver : Address) :
    Tx Nat :=
  claimAccountAmount env (Keys.affiliateRewardForAccountKey market token account)
    (Keys.affiliateRewardKey market token) market token receiver

namespace MarketUtils

/-- The share of the withheld collateral that is released: the larger of the factors for the
time and for the account. -/
def getClaimableCollateralFactor (dataStore : DataStore) (market token : Address) (timeKey : Nat)
    (account : Address) : Nat :=
  let claimableFactorForTime :=
    dataStore.getUint (Keys.claimableCollateralFactorKey market token timeKey)
  let claimableFactorForAccount :=
    dataStore.getUint (Keys.claimableCollateralFactorForAccountKey market token timeKey account)
  if claimableFactorForTime > claimableFactorForAccount then claimableFactorForTime
  else claimableFactorForAccount

def claimCollateral (env : Env) (market token : Address) (timeKey : Nat)
    (account receiver : Address) : Tx Nat := do
  let claimableAmount ← readStore
    (·.getUint (Keys.claimableCollateralAmountForAccountKey market token timeKey account))
  let claimableFactor ← readStore fun dataStore =>
    getClaimableCollateralFactor dataStore market token timeKey account
  let claimedAmount ← readStore
    (·.getUint (Keys.claimedCollateralAmountKey market token timeKey account))
  let adjustedClaimableAmount ← Precision.applyFactor claimableAmount claimableFactor
  revertIf (adjustedClaimableAmount ≤ claimedAmount)
    (.CollateralAlreadyClaimed adjustedClaimableAmount claimedAmount)
  let remainingClaimableAmount ← sub adjustedClaimableAmount claimedAmount
  writeStore (·.setUint (Keys.claimedCollateralAmountKey market token timeKey account)
    adjustedClaimableAmount)
  let _ ← DataStore.decrementUint (Keys.claimableCollateralAmountKey market token)
    remainingClaimableAmount
  Bank.transferOut env market token receiver remainingClaimableAmount
  Tx.view fun w => validateMarketTokenBalanceOf w market
  pure remainingClaimableAmount

end MarketUtils

-- ---------------------------------------------------------------------------
-- What increments and claims write
-- ---------------------------------------------------------------------------

variable {env : Env} {w w' : World}

theorem Key.slot_ne_tokens (key : Key) : key.slot ≠ .tokens := by
  rcases key with _ | ⟨_, _⟩ | ⟨_ | _, _⟩ | ⟨_, _⟩ <;> simp [Key.slot, StoreKey.slot]

/-- A transfer leaves the store alone. -/
theorem Bank.transferOut_getUint {bank token receiver : Address} {amount : Nat} {u : Unit}
    (h : transferOut env bank token receiver amount w = .ok (u, w')) (key : Key) :
    w'.dataStore.getUint key = w.dataStore.getUint key :=
  (transferOut_writes env (List.mem_singleton_self _) bank token receiver amount h).uint _
    (by simpa using key.slot_ne_tokens) key rfl

theorem DataStore.incrementUint_eq_ok {key : Key} {value next : Nat}
    (h : incrementUint key value w = .ok (next, w')) :
    w' = { w with dataStore := w.dataStore.setUint key (w.dataStore.getUint key + value) } := by
  simp only [incrementUint, ↓readStore_bind_eq_ok, ↓Tx.lift_bind_eq_ok, ↓writeStore_bind_eq_ok,
    Tx.pure_eq_ok, add_eq_ok] at h
  obtain ⟨_, ⟨-, rfl⟩, -, rfl⟩ := h
  rfl

theorem DataStore.decrementUint_eq_ok {key : Key} {value next : Nat}
    (h : decrementUint key value w = .ok (next, w')) :
    value ≤ w.dataStore.getUint key ∧
      w' = { w with dataStore := w.dataStore.setUint key (w.dataStore.getUint key - value) } := by
  simp only [decrementUint, ↓readStore_bind_eq_ok, ↓Tx.lift_bind_eq_ok, ↓writeStore_bind_eq_ok,
    Tx.pure_eq_ok, sub_eq_ok] at h
  obtain ⟨_, ⟨hle, rfl⟩, -, rfl⟩ := h
  exact ⟨hle, rfl⟩

/-- A claim empties the account's amount and takes it off the total. -/
theorem claimAccountAmount_eq_ok {accountKey totalKey : Key} {market token receiver : Address}
    {amount : Nat} (hne : totalKey ≠ accountKey)
    (h : claimAccountAmount env accountKey totalKey market token receiver w = .ok (amount, w')) :
    amount = w.dataStore.getUint accountKey ∧ amount ≤ w.dataStore.getUint totalKey ∧
      ∀ key, w'.dataStore.getUint key = ((w.dataStore.setUint accountKey 0).setUint totalKey
        (w.dataStore.getUint totalKey - amount)).getUint key := by
  unfold claimAccountAmount at h
  simp only [↓readStore_bind_eq_ok, ↓writeStore_bind_eq_ok] at h
  obtain ⟨_, w₁, hdecrement, h⟩ := Tx.bind_eq_ok.mp h
  obtain ⟨_, w₂, htransfer, h⟩ := Tx.bind_eq_ok.mp h
  simp only [↓Tx.view_bind_eq_ok, Tx.pure_eq_ok] at h
  obtain ⟨_, -, rfl, rfl⟩ := h
  obtain ⟨hle, rfl⟩ := DataStore.decrementUint_eq_ok hdecrement
  have htotal : (w.dataStore.setUint accountKey 0).getUint totalKey =
      w.dataStore.getUint totalKey := by rw [MarketUtils.getUint_setUint, if_neg hne]
  dsimp only at hle htransfer
  rw [htotal] at hle htransfer
  exact ⟨rfl, hle, fun key => Bank.transferOut_getUint htransfer key⟩

/-- A claim of collateral raises the claimed amount to the released share and takes the difference
off the total. -/
theorem MarketUtils.claimCollateral_eq_ok {market token account receiver : Address} {timeKey : Nat}
    {amount : Nat}
    (h : claimCollateral env market token timeKey account receiver w = .ok (amount, w')) :
    let claimable := w.dataStore.getUint
      (Keys.claimableCollateralAmountForAccountKey market token timeKey account)
    let claimed :=
      w.dataStore.getUint (Keys.claimedCollateralAmountKey market token timeKey account)
    let total := w.dataStore.getUint (Keys.claimableCollateralAmountKey market token)
    ∃ adjusted, Precision.applyFactor claimable
        (getClaimableCollateralFactor w.dataStore market token timeKey account) = .ok adjusted ∧
      claimed < adjusted ∧ amount = adjusted - claimed ∧ amount ≤ total ∧
      ∀ key, w'.dataStore.getUint key =
        ((w.dataStore.setUint (Keys.claimedCollateralAmountKey market token timeKey account)
          adjusted).setUint (Keys.claimableCollateralAmountKey market token)
            (total - amount)).getUint key := by
  intro claimable claimed total
  unfold claimCollateral at h
  simp only [↓readStore_bind_eq_ok, ↓Tx.lift_bind_eq_ok, ↓writeStore_bind_eq_ok, sub_eq_ok,
    Result.revertIf_eq_ok] at h
  obtain ⟨adjusted, hadjusted, _, hless, _, ⟨-, rfl⟩, h⟩ := h
  obtain ⟨_, w₁, hdecrement, h⟩ := Tx.bind_eq_ok.mp h
  obtain ⟨_, w₂, htransfer, h⟩ := Tx.bind_eq_ok.mp h
  simp only [↓Tx.view_bind_eq_ok, Tx.pure_eq_ok] at h
  obtain ⟨_, -, rfl, rfl⟩ := h
  obtain ⟨hle, rfl⟩ := DataStore.decrementUint_eq_ok hdecrement
  have hne : Keys.claimableCollateralAmountKey market token ≠
      Keys.claimedCollateralAmountKey market token timeKey account := by
    simp [Keys.claimableCollateralAmountKey, Keys.claimedCollateralAmountKey]
  have htotal : (w.dataStore.setUint (Keys.claimedCollateralAmountKey market token timeKey account)
      adjusted).getUint (Keys.claimableCollateralAmountKey market token) = total := by
    rw [MarketUtils.getUint_setUint, if_neg hne]
  dsimp only at hle htransfer
  rw [htotal] at hle htransfer
  exact ⟨adjusted, hadjusted, not_le.mp hless, rfl, hle,
    fun key => Bank.transferOut_getUint htransfer key⟩

end GmxSynthetics
