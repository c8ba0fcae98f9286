import GmxSynthetics.Market.ClaimBatches
import GmxSynthetics.Market.MarketCustody
import GmxSynthetics.Market.MarketFactory

/-!
# Claims and the custody of a market

Ui fees, affiliate rewards, withheld collateral and the fees of the protocol are paid out of the
book of a market. Funding fees are not: they are claimed before the positions that owe them have
paid, so a claim of funding fees costs the market its surplus.

* `Claims` — a claim pays out of its market, and leaves `lent` of it in the book;
* `PaysClaims` — the same for a batch, in which no other account is concerned.
-/

namespace GmxSynthetics

open Evm MarketUtils

variable {env : Env} {w w' w'' : World} {account : Address} {u : Unit}

/-- The balance check is passed by markets only. -/
theorem MarketUtils.validateMarketTokenBalanceOf_ne {market : Address}
    (hnone : NoMarket account w.dataStore) (hkeyed : MarketsKeyed w.dataStore)
    (h : validateMarketTokenBalanceOf w market = .ok ()) : account ≠ market := by
  rintro rfl
  simp only [validateMarketTokenBalanceOf, Result.bind_eq_ok] at h
  obtain ⟨enabled, henabled, -⟩ := h
  obtain ⟨rfl, hne⟩ := getEnabledMarket_eq_ok henabled
  exact hnone _ (hkeyed _ hne)

-- ---------------------------------------------------------------------------
-- Claims
-- ---------------------------------------------------------------------------

/-- A ledger that is counted down. -/
theorem decrementUint_moves {market token : Address} {key : Key}
    (hkey : key ∈ bookKeys market token) {value next : Nat}
    (h : DataStore.decrementUint key value w = .ok (next, w')) :
    Moves (entry market token (-value)) w w' := by
  obtain ⟨hle, rfl⟩ := DataStore.decrementUint_eq_ok h
  refine (moves_setUint hkey _ _).cast (congrArg _ ?_)
  omega

/-- One that is no ledger moves nothing. -/
theorem decrementUint_moves_other {key : Key} (hkey : ∀ market token, key ∉ bookKeys market token)
    {value next : Nat} (h : DataStore.decrementUint key value w = .ok (next, w')) :
    Moves 0 w w' := by
  obtain ⟨-, rfl⟩ := DataStore.decrementUint_eq_ok h
  exact moves_setUint_other hkey _ _

/-- The slots of what can be claimed and has been claimed. -/
def claimedSlots : List Slot :=
  [.constant .CLAIMABLE_FUNDING_AMOUNT, .constant .CLAIMABLE_FEE_AMOUNT,
    .constant .CLAIMABLE_UI_FEE_AMOUNT, .constant .AFFILIATE_REWARD,
    .constant .CLAIMABLE_COLLATERAL_AMOUNT, .constant .CLAIMED_COLLATERAL_AMOUNT]

/-- A claim of `amount` from a market that leaves `lent` of it in the books: the surplus of the
market is short of what is lent, and the other books stay. -/
structure Claims (env : Env) (market token : Address) (amount lent : Nat) (w w' : World) :
    Prop where
  gains : ∀ account, env.Accepts account → Gains account (entry market token (-lent) account) w w'
  moves : Moves (entry market token (lent - amount)) w w'
  spends : ∀ vault, Spends vault (outflow vault market token amount) w w'
  sameOff : World.SameOff (.tokens :: claimedSlots) w w'
  checked : validateMarketTokenBalanceOf w' market = .ok ()

/-- A claim leaves the markets. -/
theorem Claims.market_eq {market token : Address} {amount lent : Nat}
    (h : Claims env market token amount lent w w') :
    MarketStoreUtils.get w'.dataStore = MarketStoreUtils.get w.dataStore :=
  funext fun _ => MarketStoreUtils.get_sameOff h.sameOff (by decide) (by decide) _

/-- What every claim ends with: the payment and the balance check, after writes that book the
claim. -/
theorem Claims.of_payment {market token receiver : Address} {amount lent : Nat}
    (hsame : World.SameOff claimedSlots w w')
    (hbooked : Moves (entry market token (lent - amount)) w w')
    (hpay : Bank.transferOut env market token receiver amount w' = .ok (u, w''))
    (hchecked : validateMarketTokenBalanceOf w'' market = .ok ()) :
    Claims env market token amount lent w w'' where
  gains account haccepts := by
    have hreceives := (Receives.of_sameOff hsame (by decide)).trans
      (Bank.transferOut_receives haccepts hpay)
    have hpaid : Moves 0 w' w'' := .of_writes
      (Bank.transferOut_writes env (List.mem_singleton_self _) _ _ _ _) (by decide) hpay
    refine (Gains.of_moves hreceives (hbooked.trans hpaid)).mono fun t => ?_
    have harrival := arrival_nonneg receiver token amount false account t
    rw [arrival_wrapped] at harrival
    simp only [Pi.add_apply, Pi.sub_apply, Pi.zero_apply, entry] at harrival ⊢
    split_ifs at harrival ⊢ <;> omega
  moves := by
    have hpaid : Moves 0 w' w'' := .of_writes
      (Bank.transferOut_writes env (List.mem_singleton_self _) _ _ _ _) (by decide) hpay
    exact (hbooked.trans hpaid).cast (add_zero _)
  spends vault := by
    have hpaid : Spends vault (outflow vault market token amount) w' w'' :=
      Bank.transferOut_spends hpay
    obtain ⟨hbalances, -, hrecorded⟩ := hsame.tokens (by decide)
    refine ⟨fun t => ?_, by rw [hpaid.recorded, hrecorded]⟩
    rw [← hbalances]
    exact hpaid.held t
  sameOff := by
    have hpaid : World.SameOff (.tokens :: claimedSlots) w' w'' :=
      Bank.transferOut_writes env List.mem_cons_self _ _ _ _ hpay
    exact (hsame.mono (List.subset_cons_self _ _)).trans hpaid
  checked := hchecked

theorem setUint_sameOff {slots : List Slot} {key : Key} (hkey : key.slot ∈ slots) (w : World)
    (value : Nat) :
    World.SameOff slots w { w with dataStore := w.dataStore.setUint key value } :=
  Writes.writeStore (.setUint hkey value) (a := ()) (writeStore_eq_ok.mpr rfl)

/-- A claim takes an account's amount off the two entries, and sends it. -/
theorem claimAccountAmount_claims {accountKey totalKey : Key} {market token receiver : Address}
    {amount lent : Nat} (haccount : ∀ market token, accountKey ∉ bookKeys market token)
    (htotal : totalKey ∈ bookKeys market token ∧ lent = 0 ∨
      (∀ market token, totalKey ∉ bookKeys market token) ∧ lent = amount)
    (hslots : accountKey.slot ∈ claimedSlots ∧ totalKey.slot ∈ claimedSlots)
    (h : claimAccountAmount env accountKey totalKey market token receiver w = .ok (amount, w')) :
    Claims env market token amount lent w w' := by
  unfold claimAccountAmount at h
  simp only [↓readStore_bind_eq_ok, ↓writeStore_bind_eq_ok] at h
  obtain ⟨next, w₁, hdecrement, h⟩ := Tx.bind_eq_ok.mp h
  obtain ⟨_, w₂, hpay, h⟩ := Tx.bind_eq_ok.mp h
  simp only [↓Tx.view_bind_eq_ok, Tx.pure_eq_ok] at h
  obtain ⟨_, hchecked, rfl, rfl⟩ := h
  have hset := setUint_sameOff hslots.1 w 0
  have hemptied := moves_setUint_other haccount w 0
  have hlent : Moves (entry market token
      (lent - (w.dataStore.getUint accountKey : Int)))
      { w with dataStore := w.dataStore.setUint accountKey 0 } w₁ := by
    rcases htotal with ⟨hkey, rfl⟩ | ⟨hkey, rfl⟩
    · rw [Nat.cast_zero, zero_sub]
      exact decrementUint_moves hkey hdecrement
    · rw [sub_self, entry_zero]
      exact decrementUint_moves_other hkey hdecrement
  have hdecremented : World.SameOff claimedSlots
      { w with dataStore := w.dataStore.setUint accountKey 0 } w₁ := by
    obtain ⟨-, rfl⟩ := DataStore.decrementUint_eq_ok hdecrement
    exact setUint_sameOff hslots.2 _ _
  exact .of_payment (hset.trans hdecremented)
    ((hemptied.trans hlent).cast (zero_add _)) hpay hchecked

/-- Funding fees are claimed against what other positions have yet to pay: no book has them. -/
theorem MarketUtils.claimFundingFees_claims {market token account receiver : Address}
    {amount : Nat} (h : claimFundingFees env market token account receiver w = .ok (amount, w')) :
    Claims env market token amount amount w w' := by
  refine claimAccountAmount_claims ?_ (Or.inr ⟨?_, rfl⟩)
    ⟨List.mem_of_elem_eq_true rfl, List.mem_of_elem_eq_true rfl⟩ h
  · intro market' token'
    simp [bookKeys, Keys.claimableFundingAmountForAccountKey, Keys.poolAmountKey,
      Keys.swapImpactPoolAmountKey, Keys.claimableCollateralAmountKey, Keys.claimableFeeAmountKey,
      Keys.claimableUiFeeAmountKey, Keys.affiliateRewardKey, Keys.collateralSumKey]
  · intro market' token'
    simp [bookKeys, Keys.claimableFundingAmountKey, Keys.poolAmountKey,
      Keys.swapImpactPoolAmountKey, Keys.claimableCollateralAmountKey, Keys.claimableFeeAmountKey,
      Keys.claimableUiFeeAmountKey, Keys.affiliateRewardKey, Keys.collateralSumKey]

/-- The fees of an interface are paid out of its ledger. -/
theorem FeeUtils.claimUiFees_claims {uiFeeReceiver market token receiver : Address}
    {amount : Nat} (h : claimUiFees env uiFeeReceiver market token receiver w = .ok (amount, w')) :
    Claims env market token amount 0 w w' := by
  unfold claimUiFees at h
  simp only [↓Tx.lift_bind_eq_ok] at h
  obtain ⟨_, -, h⟩ := h
  refine claimAccountAmount_claims ?_ (Or.inl ⟨by simp [bookKeys], rfl⟩)
    ⟨List.mem_of_elem_eq_true rfl, List.mem_of_elem_eq_true rfl⟩ h
  intro market' token'
  simp [bookKeys, Keys.claimableUiFeeAmountForAccountKey, Keys.poolAmountKey,
    Keys.swapImpactPoolAmountKey, Keys.claimableCollateralAmountKey, Keys.claimableFeeAmountKey,
    Keys.claimableUiFeeAmountKey, Keys.affiliateRewardKey, Keys.collateralSumKey]

/-- The rewards of an affiliate too. -/
theorem ReferralUtils.claimAffiliateReward_claims {market token account receiver : Address}
    {amount : Nat}
    (h : claimAffiliateReward env market token account receiver w = .ok (amount, w')) :
    Claims env market token amount 0 w w' := by
  refine claimAccountAmount_claims ?_ (Or.inl ⟨by simp [bookKeys], rfl⟩)
    ⟨List.mem_of_elem_eq_true rfl, List.mem_of_elem_eq_true rfl⟩ h
  intro market' token'
  simp [bookKeys, Keys.affiliateRewardForAccountKey, Keys.poolAmountKey,
    Keys.swapImpactPoolAmountKey, Keys.claimableCollateralAmountKey, Keys.claimableFeeAmountKey,
    Keys.claimableUiFeeAmountKey, Keys.affiliateRewardKey, Keys.collateralSumKey]

/-- The fees of the protocol too. -/
theorem FeeUtils.claimFees_claims {market token receiver : Address} {amount : Nat}
    (h : claimFees env market token receiver w = .ok (amount, w')) :
    Claims env market token amount 0 w w' := by
  unfold claimFees at h
  simp only [↓Tx.lift_bind_eq_ok, ↓readStore_bind_eq_ok, ↓writeStore_bind_eq_ok] at h
  obtain ⟨_, -, h⟩ := h
  obtain ⟨_, w₂, hpay, h⟩ := Tx.bind_eq_ok.mp h
  simp only [↓Tx.view_bind_eq_ok, Tx.pure_eq_ok] at h
  obtain ⟨_, hchecked, rfl, rfl⟩ := h
  have hkey : Keys.claimableFeeAmountKey market token ∈ bookKeys market token := by
    simp [bookKeys]
  have hbooked := moves_setUint hkey w 0
  exact .of_payment (setUint_sameOff (List.mem_of_elem_eq_true rfl) w 0) hbooked hpay hchecked

/-- Withheld collateral is booked in total, whatever the shares that have been released of it. -/
theorem MarketUtils.claimCollateral_claims {market token account receiver : Address}
    {timeKey amount : Nat}
    (h : claimCollateral env market token timeKey account receiver w = .ok (amount, w')) :
    Claims env market token amount 0 w w' := by
  unfold claimCollateral at h
  simp only [↓readStore_bind_eq_ok, ↓Tx.lift_bind_eq_ok, ↓writeStore_bind_eq_ok, sub_eq_ok] at h
  obtain ⟨adjusted, -, _, -, _, ⟨-, rfl⟩, h⟩ := h
  obtain ⟨_, w₁, hdecrement, h⟩ := Tx.bind_eq_ok.mp h
  obtain ⟨_, w₂, hpay, h⟩ := Tx.bind_eq_ok.mp h
  simp only [↓Tx.view_bind_eq_ok, Tx.pure_eq_ok] at h
  obtain ⟨_, hchecked, rfl, rfl⟩ := h
  have hother : ∀ market' token',
      Keys.claimedCollateralAmountKey market token timeKey account ∉ bookKeys market' token' := by
    intro market' token'
    simp [bookKeys, Keys.claimedCollateralAmountKey, Keys.poolAmountKey,
      Keys.swapImpactPoolAmountKey, Keys.claimableCollateralAmountKey, Keys.claimableFeeAmountKey,
      Keys.claimableUiFeeAmountKey, Keys.affiliateRewardKey, Keys.collateralSumKey]
  have hraised := moves_setUint_other hother w adjusted
  have hkey : Keys.claimableCollateralAmountKey market token ∈ bookKeys market token := by
    simp [bookKeys]
  have hbooked := decrementUint_moves hkey hdecrement
  let raised : World := { w with
    dataStore := w.dataStore.setUint
      (Keys.claimedCollateralAmountKey market token timeKey account) adjusted }
  have hset : World.SameOff claimedSlots w raised :=
    setUint_sameOff (List.mem_of_elem_eq_true rfl) w adjusted
  have hdecremented : World.SameOff claimedSlots raised w₁ := by
    obtain ⟨-, rfl⟩ := DataStore.decrementUint_eq_ok hdecrement
    exact setUint_sameOff (List.mem_of_elem_eq_true rfl) _ _
  refine .of_payment (hset.trans hdecremented)
    ((hraised.trans hbooked).cast ?_) hpay hchecked
  rw [zero_add, Nat.cast_zero, zero_sub]

-- ---------------------------------------------------------------------------
-- Batches
-- ---------------------------------------------------------------------------

/-- Claims that leave `lent` in the books; accounts that are no markets are not concerned. -/
structure PaysClaims (env : Env) (lent : Address → Address → Int) (w w' : World) : Prop where
  gains : ∀ account, env.Accepts account → Gains account (-lent account) w w'
  untouched : MarketsKeyed w.dataStore → ∀ account, NoMarket account w.dataStore →
    Untouched account w w' ∧ Spends account 0 w w'
  sameOff : World.SameOff (.tokens :: claimedSlots) w w'

/-- A batch of claims leaves the markets. -/
theorem PaysClaims.market_eq {lent : Address → Address → Int} (h : PaysClaims env lent w w') :
    MarketStoreUtils.get w'.dataStore = MarketStoreUtils.get w.dataStore :=
  funext fun _ => MarketStoreUtils.get_sameOff h.sameOff (by decide) (by decide) _

theorem PaysClaims.refl (env : Env) (w : World) : PaysClaims env 0 w w where
  gains account _ := (Gains.refl account w).mono fun token => by simp
  untouched _ account _ := ⟨rfl, .refl _ _ _⟩
  sameOff := .refl _ _

/-- Two batches pay what they pay together. -/
theorem PaysClaims.trans {lent lent' : Address → Address → Int} (h : PaysClaims env lent w w')
    (h' : PaysClaims env lent' w' w'') : PaysClaims env (lent + lent') w w'' where
  gains account haccepts := by
    refine ((h.gains account haccepts).trans (h'.gains account haccepts)).mono fun token => ?_
    simp only [Pi.add_apply, Pi.neg_apply]
    omega
  untouched hkeyed account hnone := by
    obtain ⟨h₁, hspends⟩ := h.untouched hkeyed account hnone
    obtain ⟨h₂, hspends'⟩ := h'.untouched (hkeyed.of_market_eq h.market_eq) account
      (hnone.of_market_eq h.market_eq)
    refine ⟨trans_of (Untouched account) h₁ h₂, fun token => ?_,
      hspends'.recorded.trans hspends.recorded⟩
    exact (hspends.held token).trans (hspends'.held token)
  sameOff := h.sameOff.trans h'.sameOff

/-- A claim is a batch of one. -/
theorem Claims.pays {market token : Address} {amount lent : Nat}
    (h : Claims env market token amount lent w w') :
    PaysClaims env (entry market token lent) w w' where
  gains account haccepts := by
    refine (h.gains account haccepts).mono fun t => ?_
    simp only [Pi.neg_apply, entry]
    split_ifs <;> omega
  untouched hkeyed account hnone := by
    have hne : account ≠ market := MarketUtils.validateMarketTokenBalanceOf_ne
      (hnone.of_market_eq h.market_eq) (hkeyed.of_market_eq h.market_eq) h.checked
    have hspends := h.spends account
    rw [outflow_of_ne hne.symm] at hspends
    exact ⟨.of_moves h.moves (entry_apply_of_ne hne _ _), hspends⟩
  sameOff := h.sameOff

/-- What the claims of a batch leave in the books. -/
def lentBy (lent : Paid → Nat) (paid : List Paid) : Address → Address → Int :=
  (paid.map fun p => entry p.market p.token (lent p)).sum

theorem lentBy_zero (paid : List Paid) : lentBy (fun _ => 0) paid = 0 := by
  induction paid with
  | nil => rfl
  | cons p paid ih =>
    rw [lentBy, List.map_cons, List.sum_cons, Nat.cast_zero, entry_zero, zero_add]
    simpa only [lentBy, Nat.cast_zero] using ih

/-- A batch pays what its claims pay. -/
theorem claimEach_pays {lent : Paid → Nat} {claims : List Claim} {paid : List Paid}
    (hclaims : ∀ claim ∈ claims, ∀ (amount : Nat) (w w' : World),
      claim.pay w = .ok (amount, w') → Claims env claim.market claim.token amount
        (lent ⟨claim.market, claim.token, amount⟩) w w')
    (h : claimEach claims w = .ok (paid, w')) : PaysClaims env (lentBy lent paid) w w' := by
  refine claimEach_induction (R := fun paid w w' => PaysClaims env (lentBy lent paid) w w')
    (PaysClaims.refl env) ?_ ?_ h
  · intro p rest w w₁ w' hfirst hrest
    have hsum : lentBy lent (p :: rest) = lentBy lent [p] + lentBy lent rest := by
      simp [lentBy]
    rw [hsum]
    exact hfirst.trans hrest
  · intro claim hmem amount w w' hclaim
    have hpays := (hclaims claim hmem amount w w' hclaim).pays
    simpa [lentBy] using hpays

/-- Funding fees are lent by the market, whose ledgers do not have them. -/
theorem ExchangeRouter.claimFundingFees_pays {router msgSender receiver : Address}
    {markets tokens : List Address} {paid : List Paid}
    (h : claimFundingFees env router msgSender markets tokens receiver w = .ok (paid, w')) :
    PaysClaims env (lentBy Paid.amount paid) w w' := by
  unfold claimFundingFees at h
  simp only [↓Tx.lift_bind_eq_ok, ↓viewStore_bind_eq_ok] at h
  obtain ⟨_, -, _, -, _, -, h⟩ := h
  refine claimEach_pays (fun claim hmem amount w w' hclaim => ?_) h
  rw [mem_claimsOf hmem] at hclaim
  exact MarketUtils.claimFundingFees_claims hclaim

/-- Claims that are booked lend nothing. -/
theorem claimEach_pays_booked {claims : List Claim} {paid : List Paid}
    (hclaims : ∀ claim ∈ claims, ∀ (amount : Nat) (w w' : World),
      claim.pay w = .ok (amount, w') → Claims env claim.market claim.token amount 0 w w')
    (h : claimEach claims w = .ok (paid, w')) : PaysClaims env 0 w w' := by
  rw [← lentBy_zero paid]
  exact claimEach_pays hclaims h

/-- Collateral is booked. -/
theorem ExchangeRouter.claimCollateral_pays {router msgSender receiver : Address}
    {markets tokens : List Address} {timeKeys : List Nat} {paid : List Paid}
    (h : claimCollateral env router msgSender markets tokens timeKeys receiver w =
      .ok (paid, w')) : PaysClaims env 0 w w' := by
  unfold claimCollateral at h
  simp only [↓Tx.lift_bind_eq_ok, ↓viewStore_bind_eq_ok] at h
  obtain ⟨_, -, _, -, _, -, h⟩ := h
  refine claimEach_pays_booked (fun claim hmem amount w w' hclaim => ?_) h
  obtain ⟨⟨⟨market, token⟩, timeKey⟩, -, rfl⟩ := List.mem_map.mp hmem
  exact MarketUtils.claimCollateral_claims hclaim

/-- So are the rewards of affiliates. -/
theorem ExchangeRouter.claimAffiliateRewards_pays {router msgSender receiver : Address}
    {markets tokens : List Address} {paid : List Paid}
    (h : claimAffiliateRewards env router msgSender markets tokens receiver w = .ok (paid, w')) :
    PaysClaims env 0 w w' := by
  unfold claimAffiliateRewards at h
  simp only [↓Tx.lift_bind_eq_ok, ↓viewStore_bind_eq_ok] at h
  obtain ⟨_, -, _, -, h⟩ := h
  refine claimEach_pays_booked (fun claim hmem amount w w' hclaim => ?_) h
  rw [mem_claimsOf hmem] at hclaim
  exact ReferralUtils.claimAffiliateReward_claims hclaim

/-- So are the fees of interfaces. -/
theorem ExchangeRouter.claimUiFees_pays {router msgSender receiver : Address}
    {markets tokens : List Address} {paid : List Paid}
    (h : claimUiFees env router msgSender markets tokens receiver w = .ok (paid, w')) :
    PaysClaims env 0 w w' := by
  unfold claimUiFees at h
  simp only [↓Tx.lift_bind_eq_ok, ↓viewStore_bind_eq_ok] at h
  obtain ⟨_, -, _, -, h⟩ := h
  refine claimEach_pays_booked (fun claim hmem amount w w' hclaim => ?_) h
  rw [mem_claimsOf hmem] at hclaim
  exact FeeUtils.claimUiFees_claims hclaim

/-- So are those of the protocol. -/
theorem FeeHandler.claimFees_pays {markets tokens : List Address} {paid : List Paid}
    (h : claimFees env markets tokens w = .ok (paid, w')) : PaysClaims env 0 w w' := by
  unfold claimFees at h
  simp only [↓Tx.lift_bind_eq_ok, ↓readStore_bind_eq_ok] at h
  obtain ⟨_, -, h⟩ := h
  refine claimEach_pays_booked (fun claim hmem amount w w' hclaim => ?_) h
  rw [mem_claimsOf hmem] at hclaim
  exact FeeUtils.claimFees_claims hclaim

end GmxSynthetics
