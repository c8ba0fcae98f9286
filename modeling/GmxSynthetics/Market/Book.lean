import GmxSynthetics.Market.LedgerFootprint
import Mathlib.Algebra.BigOperators.Group.List.Basic
import Mathlib.Algebra.Group.Pi.Basic

/-!
# The book of a market

What a market owes in one token: the amounts that `validateMarketTokenBalance` holds
against its balance. A token is created or lost by a call exactly when the book moves by
something other than what the call receives and pays out.

* `book` — the sum of the aggregate ledgers of a market in a token;
* `Moves δ` — a step after which the book of every market in every token is up by `δ`;
* one lemma per write of a ledger: which entry it moves, and by how much.
-/

namespace GmxSynthetics

open Evm

namespace MarketUtils

-- ---------------------------------------------------------------------------
-- The book
-- ---------------------------------------------------------------------------

/-- The ledgers of a market in a token. -/
def bookKeys (market token : Address) : List Key :=
  [Keys.poolAmountKey market token, Keys.swapImpactPoolAmountKey market token,
    Keys.claimableCollateralAmountKey market token, Keys.claimableFeeAmountKey market token,
    Keys.claimableUiFeeAmountKey market token, Keys.affiliateRewardKey market token,
    Keys.collateralSumKey market token true, Keys.collateralSumKey market token false]

def book (dataStore : DataStore) (market token : Address) : Int :=
  ((bookKeys market token).map fun key => (dataStore.getUint key : Int)).sum

/-- The slots of the ledgers. -/
def bookSlots : List Slot :=
  [.constant .POOL_AMOUNT, .constant .SWAP_IMPACT_POOL_AMOUNT,
    .constant .CLAIMABLE_COLLATERAL_AMOUNT, .constant .CLAIMABLE_FEE_AMOUNT,
    .constant .CLAIMABLE_UI_FEE_AMOUNT, .constant .AFFILIATE_REWARD, .constant .COLLATERAL_SUM]

/-- No ledger is counted twice. -/
theorem bookKeys_nodup (market token : Address) : (bookKeys market token).Nodup := by
  simp [bookKeys, Keys.poolAmountKey, Keys.swapImpactPoolAmountKey,
    Keys.claimableCollateralAmountKey, Keys.claimableFeeAmountKey, Keys.claimableUiFeeAmountKey,
    Keys.affiliateRewardKey, Keys.collateralSumKey]

/-- The ledgers are under their constants. -/
theorem slot_mem_bookSlots {market token : Address} {key : Key}
    (hkey : key ∈ bookKeys market token) : key.slot ∈ bookSlots := by
  simp only [bookKeys, List.mem_cons, List.not_mem_nil, or_false] at hkey
  rcases hkey with rfl | rfl | rfl | rfl | rfl | rfl | rfl | rfl <;>
    simp [bookSlots, Keys.poolAmountKey, Keys.swapImpactPoolAmountKey,
      Keys.claimableCollateralAmountKey, Keys.claimableFeeAmountKey,
      Keys.claimableUiFeeAmountKey, Keys.affiliateRewardKey, Keys.collateralSumKey]

/-- A ledger belongs to one market and one token. -/
theorem eq_of_mem_bookKeys {market market' token token' : Address} {key : Key}
    (hkey : key ∈ bookKeys market token) (hkey' : key ∈ bookKeys market' token') :
    market' = market ∧ token' = token := by
  simp only [bookKeys, List.mem_cons, List.not_mem_nil, or_false] at hkey
  rcases hkey with rfl | rfl | rfl | rfl | rfl | rfl | rfl | rfl <;>
    · simp [bookKeys, Keys.poolAmountKey, Keys.swapImpactPoolAmountKey,
        Keys.claimableCollateralAmountKey, Keys.claimableFeeAmountKey,
        Keys.claimableUiFeeAmountKey, Keys.affiliateRewardKey, Keys.collateralSumKey] at hkey'
      exact ⟨hkey'.1.symm, hkey'.2.symm⟩

-- ---------------------------------------------------------------------------
-- Moves of the book
-- ---------------------------------------------------------------------------

/-- An entry of one market in one token. -/
def entry (market token : Address) (amount : Int) (market' token' : Address) : Int :=
  if market' = market ∧ token' = token then amount else 0

/-- From `w` to `w'` the book goes up by `δ`. -/
def Moves (δ : Address → Address → Int) (w w' : World) : Prop :=
  ∀ market token, book w'.dataStore market token = book w.dataStore market token + δ market token

theorem entry_add (market token : Address) (a b : Int) :
    entry market token a + entry market token b = entry market token (a + b) := by
  funext market' token'
  simp only [Pi.add_apply, entry]
  split
  · rfl
  · rfl

theorem entry_zero (market token : Address) : entry market token 0 = 0 := by
  funext market' token'
  simp [entry]

@[simp] theorem entry_self (market token : Address) (amount : Int) :
    entry market token amount market token = amount := by
  simp [entry]

/-- What two steps move, they move together. -/
theorem Moves.trans {δ δ' : Address → Address → Int} {w w' w'' : World} (h : Moves δ w w')
    (h' : Moves δ' w' w'') : Moves (δ + δ') w w'' := by
  intro market token
  rw [h' market token, h market token, add_assoc]
  rfl

theorem Moves.cast {δ δ' : Address → Address → Int} {w w' : World} (h : Moves δ w w')
    (heq : δ = δ') : Moves δ' w w' :=
  heq ▸ h

/-- A step that changes nothing moves nothing. -/
theorem Moves.refl (w : World) : Moves 0 w w := by
  intro market token
  simp

/-- Calls that write no ledger leave the book as it is. -/
theorem Moves.of_sameOff {slots : List Slot} {w w' : World} (h : World.SameOff slots w w')
    (hslots : ∀ slot ∈ bookSlots, slot ∉ slots) : Moves 0 w w' := by
  intro market token
  have hvalues : ∀ key ∈ bookKeys market token,
      (w'.dataStore.getUint key : Int) = w.dataStore.getUint key := by
    intro key hkey
    rw [h.uint key.slot (hslots _ (slot_mem_bookSlots hkey)) key rfl]
  simp only [book, List.map_congr_left hvalues, Pi.zero_apply, add_zero]

/-- Nor does one that writes no ledger. -/
theorem Moves.of_writes {α : Type} {slots : List Slot} {x : Tx α} {w w' : World} {a : α}
    (hx : Writes slots x) (hslots : ∀ slot ∈ bookSlots, slot ∉ slots) (h : x w = .ok (a, w')) :
    Moves 0 w w' :=
  .of_sameOff (hx h) hslots

-- ---------------------------------------------------------------------------
-- Writes of a ledger
-- ---------------------------------------------------------------------------

variable {market token : Address} {key : Key} {w w' : World}

/-- A number is stored under its key. -/
theorem getUint_setUint (dataStore : DataStore) (key key' : Key) (value : Nat) :
    (dataStore.setUint key value).getUint key' =
      if key' = key then value else dataStore.getUint key' :=
  Function.update_apply _ _ _ _

/-- A ledger that is set moves the book by the difference. -/
theorem moves_setUint (hkey : key ∈ bookKeys market token) (w : World) (value : Nat) :
    Moves (entry market token (value - w.dataStore.getUint key)) w
      { w with dataStore := w.dataStore.setUint key value } := by
  intro market' token'
  by_cases hentry : market' = market ∧ token' = token
  · obtain ⟨rfl, rfl⟩ := hentry
    have hsum := EnumerableSet.sum_update (bookKeys_nodup market' token') hkey
      (f := fun key' => (w.dataStore.getUint key' : Int))
      (g := fun key' => ((w.dataStore.setUint key value).getUint key' : Int))
      (fun key' hne => by simp only [getUint_setUint, if_neg hne])
    simp only [getUint_setUint, if_true] at hsum
    simp only [book, getUint_setUint, entry_self]
    omega
  · have hvalues : ∀ key' ∈ bookKeys market' token',
        ((w.dataStore.setUint key value).getUint key' : Int) = w.dataStore.getUint key' := by
      intro key' hkey'
      rw [getUint_setUint, if_neg]
      rintro rfl
      exact hentry (eq_of_mem_bookKeys hkey hkey')
    simp only [book, List.map_congr_left hvalues, entry, if_neg hentry, add_zero]

/-- A write elsewhere, for instance of what one account can claim. -/
theorem moves_setUint_other (hkey : ∀ market token, key ∉ bookKeys market token) (w : World)
    (value : Nat) : Moves 0 w { w with dataStore := w.dataStore.setUint key value } := by
  intro market token
  have hvalues : ∀ key' ∈ bookKeys market token,
      ((w.dataStore.setUint key value).getUint key' : Int) = w.dataStore.getUint key' := by
    intro key' hkey'
    rw [getUint_setUint, if_neg]
    rintro rfl
    exact hkey market token hkey'
  simp only [book, List.map_congr_left hvalues, Pi.zero_apply, add_zero]

/-- The result of a checked sum. -/
theorem sumReturnUint256_eq {a c : Nat} {b : Int} (h : Calc.sumReturnUint256 a b = .ok c) :
    (c : Int) = a + b := by
  unfold Calc.sumReturnUint256 at h
  split at h
  · obtain ⟨-, rfl⟩ := add_eq_ok.mp h
    omega
  · obtain ⟨hle, rfl⟩ := sub_eq_ok.mp h
    omega

/-- A ledger that is counted up. -/
theorem incrementUint_moves (hkey : key ∈ bookKeys market token) {value next : Nat}
    (h : DataStore.incrementUint key value w = .ok (next, w')) :
    Moves (entry market token value) w w' := by
  simp only [DataStore.incrementUint, Tx.bind_eq_ok, readStore_eq_ok, Tx.lift_eq_ok, add_eq_ok,
    writeStore_eq_ok, Tx.pure_eq_ok] at h
  obtain ⟨_, _, ⟨rfl, rfl⟩, _, _, ⟨⟨-, rfl⟩, rfl⟩, _, _, rfl, -, rfl⟩ := h
  refine (moves_setUint hkey _ _).cast ?_
  rw [Nat.cast_add, add_sub_cancel_left]

/-- One that is no ledger moves nothing. -/
theorem incrementUint_moves_other (hkey : ∀ market token, key ∉ bookKeys market token)
    {value next : Nat} (h : DataStore.incrementUint key value w = .ok (next, w')) :
    Moves 0 w w' := by
  simp only [DataStore.incrementUint, Tx.bind_eq_ok, readStore_eq_ok, Tx.lift_eq_ok, add_eq_ok,
    writeStore_eq_ok, Tx.pure_eq_ok] at h
  obtain ⟨_, _, ⟨rfl, rfl⟩, _, _, ⟨⟨-, rfl⟩, rfl⟩, _, _, rfl, -, rfl⟩ := h
  exact moves_setUint_other hkey _ _

/-- A ledger entry moves by the delta. -/
theorem applyDeltaToUint_eq_ok {value : Int} {errorMessage : String} {next : Nat}
    (h : DataStore.applyDeltaToUint key value errorMessage w = .ok (next, w')) :
    (next : Int) = w.dataStore.getUint key + value ∧
      w' = { w with dataStore := w.dataStore.setUint key next } := by
  simp only [DataStore.applyDeltaToUint, Tx.bind_eq_ok, readStore_eq_ok, Tx.lift_eq_ok,
    writeStore_eq_ok, Tx.pure_eq_ok] at h
  obtain ⟨_, _, ⟨rfl, rfl⟩, _, _, ⟨-, rfl⟩, _, _, ⟨-, rfl⟩, _, _, ⟨hsum, rfl⟩, _, _, rfl, rfl,
    rfl⟩ := h
  exact ⟨sumReturnUint256_eq hsum, rfl⟩

/-- A ledger to which a signed amount is added. -/
theorem applyDeltaToUint_moves (hkey : key ∈ bookKeys market token) {value : Int}
    {errorMessage : String} {next : Nat}
    (h : DataStore.applyDeltaToUint key value errorMessage w = .ok (next, w')) :
    Moves (entry market token value) w w' := by
  obtain ⟨hnext, rfl⟩ := applyDeltaToUint_eq_ok h
  refine (moves_setUint hkey _ _).cast ?_
  rw [hnext, add_sub_cancel_left]

/-- Where the value does not fall below zero, the bounded write is exact. -/
theorem applyBoundedDeltaToUint_moves (hkey : key ∈ bookKeys market token) {value : Int}
    {next : Nat} (hvalue : 0 ≤ (w.dataStore.getUint key : Int) + value)
    (h : DataStore.applyBoundedDeltaToUint key value w = .ok (next, w')) :
    Moves (entry market token value) w w' := by
  simp only [DataStore.applyBoundedDeltaToUint, Tx.bind_eq_ok, readStore_eq_ok, Tx.lift_eq_ok,
    writeStore_eq_ok, Tx.pure_eq_ok] at h
  obtain ⟨_, _, ⟨rfl, rfl⟩, isNegative, _, ⟨hnegative, rfl⟩, _, _, ⟨hsum, rfl⟩, _, _, rfl, -,
    rfl⟩ :=
    h
  obtain rfl := negationExceeds_eq_ok hnegative
  rw [if_neg (by rw [decide_eq_true_iff]; omega)] at hsum
  refine (moves_setUint hkey _ _).cast ?_
  rw [sumReturnUint256_eq hsum, add_sub_cancel_left]

/-- The opposite token is the other one of the market. -/
theorem getOppositeToken_eq_ok {inputToken tokenOut : Address} {market : Market}
    (h : getOppositeToken inputToken market = .ok tokenOut) :
    inputToken = market.longToken ∧ market.shortToken = tokenOut ∨
      inputToken = market.shortToken ∧ market.longToken = tokenOut := by
  unfold getOppositeToken at h
  split at h
  · rename_i hlong
    exact Or.inl ⟨hlong, Result.pure_eq_ok.mp h⟩
  · split at h
    · rename_i hshort
      exact Or.inr ⟨hshort, Result.pure_eq_ok.mp h⟩
    · simp at h

-- ---------------------------------------------------------------------------
-- The ledger functions
-- ---------------------------------------------------------------------------

variable {account : Address} {u : Unit}

/-- Claimable collateral is owed. -/
theorem incrementClaimableCollateralAmount_moves {env : Env} {delta : Nat}
    (h : incrementClaimableCollateralAmount env market token account delta w = .ok (u, w')) :
    Moves (entry market token delta) w w' := by
  simp only [incrementClaimableCollateralAmount, Tx.bind_eq_ok, readStore_eq_ok, Tx.lift_eq_ok,
    Tx.pure_eq_ok] at h
  obtain ⟨_, _, ⟨rfl, rfl⟩, timeKey, _, ⟨-, rfl⟩, _, w₁, haccount, _, w₂, htotal, -, rfl⟩ := h
  have h₁ : Moves 0 w w₁ := by
    refine incrementUint_moves_other ?_ haccount
    intro market' token'
    simp [bookKeys, Keys.claimableCollateralAmountForAccountKey, Keys.poolAmountKey,
      Keys.swapImpactPoolAmountKey, Keys.claimableCollateralAmountKey, Keys.claimableFeeAmountKey,
      Keys.claimableUiFeeAmountKey, Keys.affiliateRewardKey, Keys.collateralSumKey]
  have h₂ : Moves (entry market token delta) w₁ w₂ :=
    incrementUint_moves (by simp [bookKeys]) htotal
  exact (h₁.trans h₂).cast (zero_add _)

/-- The pool is owed. -/
theorem applyDeltaToPoolAmount_moves {delta : Int} {next : Nat}
    (h : applyDeltaToPoolAmount market token delta w = .ok (next, w')) :
    Moves (entry market token delta) w w' := by
  simp only [applyDeltaToPoolAmount, Tx.bind_eq_ok, Tx.pure_eq_ok] at h
  obtain ⟨_, w₁, hpool, _, _, hinventory, -, rfl⟩ := h
  have h₁ : Moves (entry market token delta) w w₁ :=
    applyDeltaToUint_moves (by simp [bookKeys]) hpool
  have h₂ : Moves 0 w₁ _ := Moves.of_writes
    (applyDeltaToVirtualInventoryForSwaps_writes (List.mem_singleton_self _) _ _ _) (by decide)
    hinventory
  exact (h₁.trans h₂).cast (add_zero _)

/-- The pool amount of a token moves by the delta, and no other does. -/
theorem applyDeltaToPoolAmount_eq_ok {delta : Int}
    {next : Nat} (h : applyDeltaToPoolAmount market token delta w = .ok (next, w')) :
    (w'.dataStore.getUint (Keys.poolAmountKey market token) : Int) =
        w.dataStore.getUint (Keys.poolAmountKey market token) + delta ∧
      ∀ other, other ≠ token → w'.dataStore.getUint (Keys.poolAmountKey market other) =
        w.dataStore.getUint (Keys.poolAmountKey market other) := by
  obtain ⟨_, w₁, hpool, h⟩ := Tx.bind_eq_ok.mp h
  obtain ⟨_, w₂, hinventory, h⟩ := Tx.bind_eq_ok.mp h
  obtain ⟨-, rfl⟩ := Tx.pure_eq_ok.mp h
  obtain ⟨hnext, rfl⟩ := applyDeltaToUint_eq_ok hpool
  have hsame : World.SameOff [.constant .VIRTUAL_INVENTORY_FOR_SWAPS] _ w₂ :=
    applyDeltaToVirtualInventoryForSwaps_writes (List.mem_singleton_self _) _ _ _ hinventory
  have hread := hsame.uint (.constant .POOL_AMOUNT) (by decide)
  refine ⟨?_, ?_⟩
  · rw [hread _ rfl]
    dsimp only
    rw [getUint_setUint, if_pos rfl, hnext]
  · intro other hother
    rw [hread _ rfl]
    dsimp only
    rw [getUint_setUint, if_neg]
    intro hkey
    have hargs : other = token := by simpa [Keys.poolAmountKey] using hkey
    exact hother hargs

/-- The collateral of the positions is owed. -/
theorem applyDeltaToCollateralSum_moves {isLong : Bool} {delta : Int} {next : Nat}
    (h : applyDeltaToCollateralSum market token isLong delta w = .ok (next, w')) :
    Moves (entry market token delta) w w' := by
  refine applyDeltaToUint_moves ?_ h
  cases isLong <;> simp [bookKeys]

/-- A negative impact is rounded away from zero, so it stays negative. -/
theorem roundUpMagnitudeDivision_nonpos {a c : Int} {b : Nat} (ha : a ≤ 0)
    (h : Calc.roundUpMagnitudeDivision a b = .ok c) : c ≤ 0 := by
  unfold Calc.roundUpMagnitudeDivision at h
  split at h
  · simp only [Result.bind_eq_ok, toInt256_eq_ok, subInt_eq_ok, addInt_eq_ok, divInt_eq_ok] at h
    obtain ⟨_, ⟨-, rfl⟩, _, ⟨-, rfl⟩, _, ⟨-, rfl⟩, _, ⟨-, rfl⟩, hb, -, rfl⟩ := h
    have hmagnitude := Int.tdiv_nonneg (a := -(a - b + 1)) (b := b) (by omega) (by omega)
    rw [Int.neg_tdiv] at hmagnitude
    omega
  · simp only [Result.bind_eq_ok, toInt256_eq_ok, subInt_eq_ok, addInt_eq_ok, divInt_eq_ok] at h
    obtain ⟨_, ⟨-, rfl⟩, _, ⟨-, rfl⟩, _, ⟨-, rfl⟩, _, ⟨-, rfl⟩, hb, -, rfl⟩ := h
    obtain rfl : a = 0 := by omega
    rw [Int.tdiv_eq_zero_of_lt (by omega) (by omega)]

/-- What a positive impact pays out is capped by the pool. -/
theorem getSwapImpactAmountWithCap_le {dataStore : DataStore} {tokenPrice : Price}
    {priceImpactUsd impactAmount : Int}
    (h : getSwapImpactAmountWithCap dataStore market token tokenPrice priceImpactUsd =
      .ok impactAmount) :
    impactAmount ≤ getSwapImpactPoolAmount dataStore market token := by
  unfold getSwapImpactAmountWithCap at h
  split at h
  · simp only [Result.bind_eq_ok, toInt256_eq_ok, Result.pure_eq_ok] at h
    obtain ⟨_, -, _, -, _, ⟨-, rfl⟩, rfl⟩ := h
    split
    · exact le_refl _
    · omega
  · have hnonpos := roundUpMagnitudeDivision_nonpos (by omega) h
    omega

/-- The swap impact pool pays exactly the impact amount. -/
theorem applySwapImpactWithCap_moves {tokenPrice : Price} {priceImpactUsd impactAmount : Int}
    (h : applySwapImpactWithCap market token tokenPrice priceImpactUsd w =
      .ok (impactAmount, w')) :
    Moves (entry market token (-impactAmount)) w w' := by
  simp only [applySwapImpactWithCap, Tx.bind_eq_ok, viewStore_eq_ok, Tx.lift_eq_ok, negInt_eq_ok,
    Tx.pure_eq_ok] at h
  obtain ⟨_, _, ⟨himpact, rfl⟩, _, _, ⟨⟨-, rfl⟩, rfl⟩, _, _, hpool, rfl, rfl⟩ := h
  have hle := getSwapImpactAmountWithCap_le himpact
  refine applyBoundedDeltaToUint_moves (by simp [bookKeys]) ?_ hpool
  unfold getSwapImpactPoolAmount at hle
  omega

end MarketUtils

-- ---------------------------------------------------------------------------
-- Fees and affiliate rewards
-- ---------------------------------------------------------------------------

open MarketUtils

variable {market token : Address} {w w' : World} {u : Unit} {delta : Nat}

/-- Fees are owed. -/
theorem FeeUtils.incrementClaimableFeeAmount_moves
    (h : incrementClaimableFeeAmount market token delta w = .ok (u, w')) :
    Moves (entry market token delta) w w' := by
  unfold incrementClaimableFeeAmount at h
  split at h
  · rename_i hzero
    obtain ⟨-, rfl⟩ := Tx.pure_eq_ok.mp h
    rw [hzero]
    exact (Moves.refl w).cast (entry_zero _ _).symm
  · simp only [Tx.bind_eq_ok, Tx.pure_eq_ok] at h
    obtain ⟨_, _, hincrement, -, rfl⟩ := h
    exact incrementUint_moves (by simp [bookKeys]) hincrement

/-- What a call books for one account and in total moves the total only. -/
theorem incrementTwice_moves {accountKey totalKey : Key}
    (haccount : ∀ market token, accountKey ∉ bookKeys market token)
    (htotal : totalKey ∈ bookKeys market token)
    (h : (if delta = 0 then pure ()
      else do
        let _ ← DataStore.incrementUint accountKey delta
        let _ ← DataStore.incrementUint totalKey delta : Tx Unit) w = .ok (u, w')) :
    Moves (entry market token delta) w w' := by
  split at h
  · rename_i hzero
    obtain ⟨-, rfl⟩ := Tx.pure_eq_ok.mp h
    rw [hzero]
    exact (Moves.refl w).cast (entry_zero _ _).symm
  · simp only [Tx.bind_eq_ok, Tx.pure_eq_ok] at h
    obtain ⟨_, w₁, hfirst, _, _, hsecond, -, rfl⟩ := h
    have h₁ := incrementUint_moves_other haccount hfirst
    have h₂ := incrementUint_moves htotal hsecond
    exact (h₁.trans h₂).cast (zero_add _)

/-- The fees of interfaces are owed. -/
theorem FeeUtils.incrementClaimableUiFeeAmount_moves {uiFeeReceiver : Address}
    (h : incrementClaimableUiFeeAmount uiFeeReceiver market token delta w = .ok (u, w')) :
    Moves (entry market token delta) w w' := by
  refine incrementTwice_moves ?_ ?_ h
  · intro market' token'
    simp [bookKeys, Keys.claimableUiFeeAmountForAccountKey, Keys.poolAmountKey,
      Keys.swapImpactPoolAmountKey, Keys.claimableCollateralAmountKey, Keys.claimableFeeAmountKey,
      Keys.claimableUiFeeAmountKey, Keys.affiliateRewardKey, Keys.collateralSumKey]
  · simp [bookKeys]

/-- The rewards of affiliates are owed. -/
theorem ReferralUtils.incrementAffiliateReward_moves {affiliate : Address}
    (h : incrementAffiliateReward market token affiliate delta w = .ok (u, w')) :
    Moves (entry market token delta) w w' := by
  refine incrementTwice_moves ?_ ?_ h
  · intro market' token'
    simp [bookKeys, Keys.affiliateRewardForAccountKey, Keys.poolAmountKey,
      Keys.swapImpactPoolAmountKey, Keys.claimableCollateralAmountKey, Keys.claimableFeeAmountKey,
      Keys.claimableUiFeeAmountKey, Keys.affiliateRewardKey, Keys.collateralSumKey]
  · simp [bookKeys]

end GmxSynthetics
