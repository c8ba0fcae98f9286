import GmxSynthetics.Exchange.RequestUtils
import GmxSynthetics.Market.Claims

/-!
# Batches of claims

`FeeHandler.sol` and the claims of `ExchangeRouter.sol`: a caller names markets and tokens, and
each of them is claimed in turn. A batch in which one claim reverts pays nothing. The role of the
fee keeper is checked by the caller of the model.

* `claimEach` — the loop that the five entry points share;
* `claimEach_induction` — what every claim of a batch does, the batch does.
-/

namespace GmxSynthetics

open Evm

/-- `claimFees` takes the whole amount of the protocol, which no account shares. -/
def FeeUtils.claimFees (env : Env) (market token receiver : Address) : Tx Nat := do
  AccountUtils.validateReceiver receiver
  let feeAmount ← readStore (·.getUint (Keys.claimableFeeAmountKey market token))
  writeStore (·.setUint (Keys.claimableFeeAmountKey market token) 0)
  Bank.transferOut env market token receiver feeAmount
  Tx.view fun w => MarketUtils.validateMarketTokenBalanceOf w market
  pure feeAmount

-- ---------------------------------------------------------------------------
-- The loop
-- ---------------------------------------------------------------------------

/-- One claim of a batch. -/
structure Claim where
  market : Address
  token : Address
  pay : Tx Nat

/-- What a claim of a batch has paid. -/
structure Paid where
  market : Address
  token : Address
  amount : Nat
  deriving DecidableEq, Repr

def claimEach : List Claim → Tx (List Paid)
  | [] => pure []
  | claim :: claims => do
    let amount ← claim.pay
    let paid ← claimEach claims
    pure ({ market := claim.market, token := claim.token, amount } :: paid)

/-- One claim for each market and its token. -/
def claimsOf (claim : Address → Address → Tx Nat) (markets tokens : List Address) : List Claim :=
  (markets.zip tokens).map fun (market, token) => { market, token, pay := claim market token }

-- ---------------------------------------------------------------------------
-- The entry points
-- ---------------------------------------------------------------------------

variable (env : Env)

def FeeHandler.claimFees (markets tokens : List Address) : Tx (List Paid) := do
  revertIf (markets.length ≠ tokens.length)
    (.InvalidClaimFeesInput markets.length tokens.length)
  let receiver ← readStore (·.getAddress (.base .FEE_RECEIVER))
  claimEach (claimsOf (FeeUtils.claimFees env · · receiver) markets tokens)

namespace ExchangeRouter

variable (router msgSender : Address)

def claimFundingFees (markets tokens : List Address) (receiver : Address) : Tx (List Paid) := do
  revertIf (markets.length ≠ tokens.length)
    (.InvalidClaimFundingFeesInput markets.length tokens.length)
  viewStore fun dataStore => FeatureUtils.validateFeature dataStore
    (Keys.claimFundingFeesFeatureDisabledKey router)
  AccountUtils.validateReceiver receiver
  claimEach (claimsOf (MarketUtils.claimFundingFees env · · msgSender receiver) markets tokens)

def claimCollateral (markets tokens : List Address) (timeKeys : List Nat) (receiver : Address) :
    Tx (List Paid) := do
  revertIf (markets.length ≠ tokens.length ∨ tokens.length ≠ timeKeys.length)
    (.InvalidClaimCollateralInput markets.length tokens.length timeKeys.length)
  viewStore fun dataStore => FeatureUtils.validateFeature dataStore
    (Keys.claimCollateralFeatureDisabledKey router)
  AccountUtils.validateReceiver receiver
  claimEach (((markets.zip tokens).zip timeKeys).map fun ((market, token), timeKey) =>
    { market, token
      pay := MarketUtils.claimCollateral env market token timeKey msgSender receiver })

/-- The receiver is not checked, other than by the transfers. -/
def claimAffiliateRewards (markets tokens : List Address) (receiver : Address) :
    Tx (List Paid) := do
  revertIf (markets.length ≠ tokens.length)
    (.InvalidClaimAffiliateRewardsInput markets.length tokens.length)
  viewStore fun dataStore => FeatureUtils.validateFeature dataStore
    (Keys.claimAffiliateRewardsFeatureDisabledKey router)
  claimEach (claimsOf (ReferralUtils.claimAffiliateReward env · · msgSender receiver)
    markets tokens)

/-- Here each claim checks the receiver. -/
def claimUiFees (markets tokens : List Address) (receiver : Address) : Tx (List Paid) := do
  revertIf (markets.length ≠ tokens.length)
    (.InvalidClaimUiFeesInput markets.length tokens.length)
  viewStore fun dataStore => FeatureUtils.validateFeature dataStore
    (Keys.claimUiFeesFeatureDisabledKey router)
  claimEach (claimsOf (FeeUtils.claimUiFees env msgSender · · receiver) markets tokens)

end ExchangeRouter

-- ---------------------------------------------------------------------------
-- What a batch does
-- ---------------------------------------------------------------------------

/-- Follows a batch claim by claim. -/
theorem claimEach_induction {R : List Paid → World → World → Prop} (hnil : ∀ w, R [] w w)
    (hcons : ∀ (paid : Paid) (rest : List Paid) (w w₁ w' : World), R [paid] w w₁ → R rest w₁ w' →
      R (paid :: rest) w w') :
    ∀ {claims : List Claim},
      (∀ claim ∈ claims, ∀ (amount : Nat) (w w' : World), claim.pay w = .ok (amount, w') →
        R [⟨claim.market, claim.token, amount⟩] w w') →
      ∀ {paid : List Paid} {w w' : World}, claimEach claims w = .ok (paid, w') → R paid w w' := by
  intro claims hclaims
  induction claims with
  | nil =>
    intro paid w w' h
    obtain ⟨rfl, rfl⟩ := Tx.pure_eq_ok.mp h
    exact hnil _
  | cons claim claims ih =>
    intro paid w w' h
    obtain ⟨amount, w₁, hclaim, h⟩ := Tx.bind_eq_ok.mp h
    obtain ⟨rest, w₂, hrest, h⟩ := Tx.bind_eq_ok.mp h
    obtain ⟨rfl, rfl⟩ := Tx.pure_eq_ok.mp h
    refine hcons _ _ _ _ _ (hclaims claim List.mem_cons_self _ _ _ hclaim) (ih ?_ hrest)
    exact fun claim' hmem => hclaims claim' (List.mem_cons_of_mem _ hmem)

theorem mem_claimsOf {claim : Address → Address → Tx Nat} {markets tokens : List Address}
    {c : Claim} (h : c ∈ claimsOf claim markets tokens) : c.pay = claim c.market c.token := by
  obtain ⟨⟨market, token⟩, -, rfl⟩ := List.mem_map.mp h
  rfl

end GmxSynthetics
