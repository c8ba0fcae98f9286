import GmxSynthetics.Exchange.CallCustody
import GmxSynthetics.Exchange.OpenPositions
import GmxSynthetics.Market.ClaimCustody

/-!
# The markets hold what their books say

The runs of the exchange again, now with what is claimed out of the markets. Deposits, swaps,
positions and claims of fees, rewards and collateral leave no market short. Only funding fees are
paid out before they are collected, so the deficit of a market is never more than what has been
claimed from it as funding fees.

* `Treasury` — the state of the chain, and the funding fees claimed so far;
* `Backed` — the invariant, which every step keeps;
* `market_solvency` — no market owes more than it holds and has paid out as funding fees.
-/

namespace GmxSynthetics

open Evm MarketUtils

variable {deployment : Deployment} {w w' : World}

-- ---------------------------------------------------------------------------
-- The machine
-- ---------------------------------------------------------------------------

/-- A market of this address is stored. -/
def IsMarket (dataStore : DataStore) (market : Address) : Prop :=
  (MarketStoreUtils.get dataStore market).marketToken ≠ 0

/-- The funding fees that have been claimed from each market. -/
structure Treasury where
  world : World
  claimed : Address → Address → Int

/-- The claims of users, and those of the keeper of the fees. -/
inductive ClaimBatch where
  | fundingFees (router msgSender : Address) (markets tokens : List Address) (receiver : Address)
  | collateral (router msgSender : Address) (markets tokens : List Address) (timeKeys : List Nat)
      (receiver : Address)
  | affiliateRewards (router msgSender : Address) (markets tokens : List Address)
      (receiver : Address)
  | uiFees (router msgSender : Address) (markets tokens : List Address) (receiver : Address)
  | fees (markets tokens : List Address)

def ClaimBatch.run (env : Env) : ClaimBatch → Tx (List Paid)
  | fundingFees router msgSender markets tokens receiver =>
    ExchangeRouter.claimFundingFees env router msgSender markets tokens receiver
  | collateral router msgSender markets tokens timeKeys receiver =>
    ExchangeRouter.claimCollateral env router msgSender markets tokens timeKeys receiver
  | affiliateRewards router msgSender markets tokens receiver =>
    ExchangeRouter.claimAffiliateRewards env router msgSender markets tokens receiver
  | uiFees router msgSender markets tokens receiver =>
    ExchangeRouter.claimUiFees env router msgSender markets tokens receiver
  | fees markets tokens => FeeHandler.claimFees env markets tokens

/-- The funding fees among what a batch has paid. -/
def ClaimBatch.funding (paid : List Paid) : ClaimBatch → Address → Address → Int
  | fundingFees .. => lentBy Paid.amount paid
  | _ => 0

/-- What others do neither writes the books nor takes tokens from a market. -/
structure OutsideTreasury (deployment : Deployment) (w w' : World) : Prop
    extends Outside deployment w w' where
  books : ∃ slots, World.SameOff slots w w' ∧ ∀ slot ∈ bookSlots, slot ∉ slots
  kept : ∀ market, IsMarket w.dataStore market → ∀ token,
    w.balances token market ≤ w'.balances token market

inductive TreasuryAction where
  | call (env : Env) (call : Call)
  | createMarket (marketToken indexToken longToken shortToken : Address) (marketType : Nat)
  | claim (env : Env) (batch : ClaimBatch)
  | outside

/-- The transfers to a market go through. -/
def Env.PaysMarkets (env : Env) (dataStore : DataStore) : Prop :=
  ∀ market, IsMarket dataStore market → env.Accepts market

/-- Every run of the exchange, with claims. Nothing is booked at first. -/
def treasury (deployment : Deployment) : Machine Treasury TreasuryAction where
  init t := Fresh deployment t.world ∧ t.claimed = 0 ∧
    ∀ account, book t.world.dataStore account = 0
  next action t t' :=
    match action with
    | .call env call => env.PaysMarkets t.world.dataStore ∧
      (exchange deployment).next (.call env call) t.world t'.world ∧ t'.claimed = t.claimed
    | .createMarket marketToken indexToken longToken shortToken marketType =>
      (exchange deployment).next
        (.createMarket marketToken indexToken longToken shortToken marketType) t.world t'.world ∧
      t'.claimed = t.claimed
    | .claim env batch => env.PaysMarkets t.world.dataStore ∧
      ∃ paid, batch.run env t.world = .ok (paid, t'.world) ∧
        t'.claimed = t.claimed + batch.funding paid
    | .outside => OutsideTreasury deployment t.world t'.world ∧ t'.claimed = t.claimed

-- ---------------------------------------------------------------------------
-- Claims
-- ---------------------------------------------------------------------------

theorem ClaimBatch.run_pays {env : Env} {batch : ClaimBatch} {paid : List Paid}
    (h : batch.run env w = .ok (paid, w')) : PaysClaims env (batch.funding paid) w w' := by
  cases batch with
  | fundingFees => exact ExchangeRouter.claimFundingFees_pays h
  | collateral => exact ExchangeRouter.claimCollateral_pays h
  | affiliateRewards => exact ExchangeRouter.claimAffiliateRewards_pays h
  | uiFees => exact ExchangeRouter.claimUiFees_pays h
  | fees => exact FeeHandler.claimFees_pays h

theorem lentBy_nonneg (paid : List Paid) (market token : Address) :
    0 ≤ lentBy Paid.amount paid market token := by
  induction paid with
  | nil => exact le_refl _
  | cons p paid ih =>
    have hsum : lentBy Paid.amount (p :: paid) market token =
        entry p.market p.token p.amount market token + lentBy Paid.amount paid market token := by
      simp [lentBy]
    have hentry : 0 ≤ entry p.market p.token (p.amount : Int) market token := by
      unfold entry
      split_ifs <;> omega
    rw [hsum]
    exact add_nonneg hentry ih

theorem ClaimBatch.funding_nonneg (batch : ClaimBatch) (paid : List Paid)
    (market token : Address) : 0 ≤ batch.funding paid market token := by
  cases batch with
  | fundingFees => exact lentBy_nonneg paid market token
  | _ => exact le_refl _

/-- To the exchange a claim is one of the things that others do. -/
theorem PaysClaims.outside {env : Env} {lent : Address → Address → Int}
    (h : PaysClaims env lent w w') (hw : Settleable deployment w) : Outside deployment w w' where
  writes := ⟨_, h.sameOff, by decide⟩
  held kind token := by
    have hspends := (h.untouched hw.marketsKeyed _ (hw.noMarkets kind)).2
    simpa using hspends.held token
  recorded kind := (h.untouched hw.marketsKeyed _ (hw.noMarkets kind)).2.recorded

-- ---------------------------------------------------------------------------
-- The invariant
-- ---------------------------------------------------------------------------

/-- The address is no vault of the deployment. -/
def Deployment.NoVault (deployment : Deployment) (account : Address) : Prop :=
  ∀ kind : RequestKind, kind.vault deployment ≠ account

/-- Each market holds what its book says, short of the funding fees claimed from it, and only
markets have books. -/
structure Backed (deployment : Deployment) (t : Treasury) : Prop where
  reachable : (exchange deployment).Reachable t.world
  covered : ∀ market, IsMarket t.world.dataStore market →
    (t.world.custody market).Covered (t.claimed market)
  unbooked : ∀ account ≠ 0, deployment.NoVault account → NoMarket account t.world.dataStore →
    book t.world.dataStore account = 0
  claimed_nonneg : ∀ market token, 0 ≤ t.claimed market token

theorem IsMarket.ne_zero {market : Address} (hkeyed : MarketsKeyed w.dataStore)
    (h : IsMarket w.dataStore market) : market ≠ 0 := by
  have hne := h
  rw [IsMarket, hkeyed market h] at hne
  exact hne

theorem IsMarket.noVault {market : Address} (hw : Settleable deployment w)
    (h : IsMarket w.dataStore market) : deployment.NoVault market := by
  intro kind hvault
  have hnone := hw.noMarkets kind market
  rw [hw.marketsKeyed market h] at hnone
  exact hnone hvault.symm

/-- An address that is not listed is no market's. -/
theorem NoMarket.of_not_mem {account : Address} (hkeyed : MarketsKeyed w.dataStore)
    (hne : account ≠ 0) (hmem : account ∉ w.dataStore.addressSets (.base .MARKET_LIST)) :
    NoMarket account w.dataStore := by
  intro key hkey
  have hstored : (MarketStoreUtils.get w.dataStore key).marketToken ≠ 0 := hkey ▸ hne
  have heq : key = account := (hkeyed key hstored).symm.trans hkey
  exact hmem (heq ▸ MarketStoreUtils.mem_of_marketToken_ne hstored)

/-- A step that changes no market keeps the invariant, where it costs a market no more surplus than
the funding fees claimed in it. -/
theorem Backed.step {t t' : Treasury} (lent : Address → Address → Int) (ht : Backed deployment t)
    (hreach : (exchange deployment).Reachable t'.world)
    (hmarket : MarketStoreUtils.get t'.world.dataStore = MarketStoreUtils.get t.world.dataStore)
    (hclaimed : t'.claimed = t.claimed + lent) (hlent : ∀ market token, 0 ≤ lent market token)
    (hgains : ∀ market, IsMarket t.world.dataStore market →
      Gains market (-lent market) t.world t'.world)
    (huntouched : ∀ account ≠ 0, deployment.NoVault account →
      NoMarket account t.world.dataStore → Untouched account t.world t'.world) :
    Backed deployment t' where
  reachable := hreach
  covered market hstored := by
    rw [IsMarket, hmarket] at hstored
    refine (ht.covered market hstored).grows (hgains market hstored) ?_
    rw [hclaimed, Pi.add_apply, add_neg_cancel_right]
  unbooked account hne hvault hnone := by
    have hnone := hnone.of_market_eq hmarket.symm
    exact (huntouched account hne hvault hnone).trans (ht.unbooked account hne hvault hnone)
  claimed_nonneg market token := by
    rw [hclaimed]
    exact add_nonneg (ht.claimed_nonneg market token) (hlent market token)

/-- A new market has no book, so it holds what its book says. -/
theorem Backed.createMarket {t t' : Treasury} (ht : Backed deployment t)
    {marketToken indexToken longToken shortToken : Address} {marketType : Nat}
    (h : (exchange deployment).next
      (.createMarket marketToken indexToken longToken shortToken marketType) t.world t'.world)
    (hclaimed : t'.claimed = t.claimed) (hw : Settleable deployment t.world) :
    Backed deployment t' := by
  have hreach := ht.reachable.next h
  obtain ⟨⟨hne, hmem, hvault⟩, market, hcreate⟩ := h
  have hsame := MarketFactory.createMarket_sameOff hcreate
  have hmarkets := MarketFactory.createMarket_market hcreate
  have hbook : ∀ account, Untouched account t.world t'.world := fun account =>
    .of_moves (Moves.of_sameOff hsame (by decide)) rfl
  have hnone := NoMarket.of_not_mem hw.marketsKeyed hne hmem
  refine ⟨hreach, ?_, ?_, fun market token => hclaimed ▸ ht.claimed_nonneg market token⟩
  · intro account hstored
    rw [hclaimed]
    by_cases haccount : account = marketToken
    · -- the market is new
      intro token
      have hempty : book t'.world.dataStore account = 0 := by
        rw [hbook account, haccount]
        exact ht.unbooked marketToken hne (fun kind heq => hvault kind heq.symm) hnone
      show book t'.world.dataStore account token ≤ _
      rw [hempty]
      exact add_nonneg (Int.natCast_nonneg _) (ht.claimed_nonneg account token)
    · rw [IsMarket, hmarkets account, if_neg haccount] at hstored
      refine (ht.covered account hstored).grows
        (Gains.of_sameOff hsame (by decide) (by decide)) ?_
      rw [add_zero]
  · intro account hne hvault hnone'
    have hold : NoMarket account t.world.dataStore := by
      intro key hkey
      have hkeyed := hw.marketsKeyed key (hkey ▸ hne)
      refine hnone' key ?_
      rw [hmarkets key, if_neg]
      · exact hkey
      · rintro rfl
        exact hnone key hkeyed
    exact (hbook account).trans (ht.unbooked account hne hvault hold)

theorem treasury_init {t : Treasury} (h : (treasury deployment).init t) :
    Backed deployment t := by
  obtain ⟨hfresh, hclaimed, hbook⟩ := h
  refine ⟨.init hfresh, ?_, fun account _ _ _ => hbook account, fun market token => ?_⟩
  · intro market hstored
    have hmem := MarketStoreUtils.mem_of_marketToken_ne hstored
    rw [hfresh.markets] at hmem
    exact absurd hmem List.not_mem_nil
  · rw [hclaimed]
    exact le_refl _

/-- Every step keeps the invariant. -/
theorem treasury_next (hsane : deployment.Sane) {t t' : Treasury} (ht : Backed deployment t)
    {action : TreasuryAction} (h : (treasury deployment).next action t t') :
    Backed deployment t' := by
  have hw : Settleable deployment t.world :=
    (exchange_escrowed hsane ht.reachable).toSettleable
  cases action with
  | call env call =>
    obtain ⟨hpays, hcall, hclaimed⟩ := h
    obtain ⟨residues, hsound⟩ := exchange_sound hsane ht.reachable
    have hkeeps : ∀ account ≠ 0, deployment.NoVault account →
        KeepsCustody env account t.world t'.world := fun account hne hvault =>
      Call.keepsCustody hsane hw hvault hne hsound hcall
    refine ht.step 0 (ht.reachable.next hcall) (Call.run_market hcall) ?_
      (fun _ _ => le_refl _) ?_ fun account hne hvault => (hkeeps account hne hvault).untouched
    · rw [hclaimed, add_zero]
    · intro market hstored
      rw [Pi.zero_apply, neg_zero]
      exact (hkeeps market (hstored.ne_zero hw.marketsKeyed) (hstored.noVault hw)).gains
        (hpays market hstored)
  | createMarket marketToken indexToken longToken shortToken marketType =>
    exact ht.createMarket h.1 h.2 hw
  | claim env batch =>
    obtain ⟨hpays, paid, hrun, hclaimed⟩ := h
    have hclaims := ClaimBatch.run_pays hrun
    have hreach := ht.reachable.next (i := Action.outside) (hclaims.outside hw)
    exact ht.step _ hreach hclaims.market_eq hclaimed (batch.funding_nonneg paid)
      (fun market hstored => hclaims.gains market (hpays market hstored))
      fun account _ _ hnone => (hclaims.untouched hw.marketsKeyed account hnone).1
  | outside =>
    obtain ⟨houtside, hclaimed⟩ := h
    obtain ⟨slots, hsame, hslots⟩ := houtside.books
    have hbooked : Moves 0 t.world t'.world := .of_sameOff hsame hslots
    refine ht.step 0 (ht.reachable.next (i := Action.outside) houtside.toOutside)
      (Outside.market houtside.toOutside) ?_ (fun _ _ => le_refl _) ?_
      fun account _ _ _ => .of_moves hbooked rfl
    · rw [hclaimed, add_zero]
    · intro market hstored
      have hreceives : Receives market 0 t.world t'.world := fun token => by
        have hkept := houtside.kept market hstored token
        simpa using hkept
      exact Gains.of_moves hreceives hbooked |>.mono fun token => by simp

-- ---------------------------------------------------------------------------
-- Solvency
-- ---------------------------------------------------------------------------

/-- **Market solvency.** In every state that is reached, each market holds of each token what its
book says: pool, impact pool, collateral of both sides, and all the fees, rewards and collateral
that are to be claimed; short of no more than the funding fees claimed from it. -/
theorem market_solvency (hsane : deployment.Sane) {t : Treasury}
    (h : (treasury deployment).Reachable t) {market : Address}
    (hstored : IsMarket t.world.dataStore market) (token : Address) :
    book t.world.dataStore market token ≤
      t.world.balances token market + t.claimed market token := by
  have hbacked : Backed deployment t := Machine.Reachable.invariant
    (fun _ hinit => treasury_init hinit)
    (fun _ _ _ _ hnext ht => treasury_next hsane ht hnext) h
  exact hbacked.covered market hstored token

theorem treasury_call {env : Env} {call : Call} {t : Treasury}
    (ht : (treasury deployment).Reachable t) (haccepts : ∀ market, env.Accepts market)
    (h : call.run env deployment t.world = .ok ((), w')) :
    (treasury deployment).Reachable ⟨w', t.claimed⟩ :=
  ht.next (i := TreasuryAction.call env call)
    ⟨fun market _ => haccepts market, h, rfl⟩

theorem openWorld_unbooked (account : Address) : book openWorld.dataStore account = 0 := rfl

/-- A market is created and deposited into, and a position is opened in it: its book is the pool and
the collateral. -/
theorem market_solvency_openLong :
    ∃ t, (treasury escrowDeployment).Reachable t ∧ book t.world.dataStore 1 3 = 11000 ∧
      11000 ≤ (t.world.balances 3 1 : Int) + t.claimed 1 3 := by
  obtain ⟨⟨w₁, w₂⟩, hok, hmarket, hbook⟩ := (by decide +kernel :
    openLong.Satisfies fun run =>
      (MarketStoreUtils.get run.2.dataStore 1).marketToken ≠ 0 ∧
      book run.2.dataStore 1 3 = 11000).exists
  simp only [openLong, openMarket, trade, Result.bind_eq_ok, Result.pure_eq_ok,
    Prod.mk.injEq] at hok
  obtain ⟨_, ⟨⟨_, w₃⟩, hcreate, ⟨_, w₄⟩, hdeposit, ⟨_, w₅⟩, hdeposited, rfl⟩, ⟨_, w₆⟩, horder,
    ⟨_, w₇⟩, hexecute, rfl, rfl⟩ := hok
  have h₀ : (treasury escrowDeployment).Reachable ⟨openWorld, 0⟩ :=
    .init ⟨openWorld_fresh, rfl, openWorld_unbooked⟩
  have hvault : ∀ kind : RequestKind, (1 : Address) ≠ kind.vault escrowDeployment := by
    intro kind
    cases kind <;> decide
  have h₁ : (treasury escrowDeployment).Reachable ⟨w₃, 0⟩ :=
    h₀.next (i := TreasuryAction.createMarket 1 2 3 4 0)
      ⟨⟨⟨by decide, List.not_mem_nil, hvault⟩, _, hcreate⟩, rfl⟩
  have hplain : ∀ timestamp indexPrice market, (openEnv timestamp indexPrice).Accepts market :=
    fun _ _ _ _ => rfl
  have h₂ := treasury_call h₁ (hplain _ _) hdeposit
  have h₃ := treasury_call h₂ (hplain _ _) hdeposited
  have h₄ := treasury_call h₃ (hplain _ _) horder
  have h₅ := treasury_call h₄ (hplain _ _) hexecute
  have hsolvent := market_solvency escrowDeployment_sane h₅ hmarket 3
  exact ⟨_, h₅, hbook, hbook ▸ hsolvent⟩

end GmxSynthetics
