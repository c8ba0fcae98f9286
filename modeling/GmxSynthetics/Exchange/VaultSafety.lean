import GmxSynthetics.Exchange.ExchangeFootprint
import GmxSynthetics.Exchange.ExchangeSettlement

/-!
# The vaults hold what they owe

In every run of the exchange each vault is a solvent escrow of its pending requests.

* `Escrowed` — the invariant: requests with keys of their own, vaults that are no markets, and
  solvent vaults;
* `exchange_escrowed` — it holds in every state that is reached;
* `vault_escrow` — so the vaults hold what they owe, can always record what arrives, and pay each
  request no more than once.
-/

namespace GmxSynthetics

open Evm

variable {deployment : Deployment} {w w' : World}

-- ---------------------------------------------------------------------------
-- Steps that settle nothing
-- ---------------------------------------------------------------------------

namespace Outside

theorem sameRequests (hkeys : RequestKeys w.dataStore) (h : Outside deployment w w') :
    SameRequests w w' := by
  obtain ⟨slots, hsame, hslots⟩ := h.writes
  exact .of_sameOff hkeys hsame fun slot hslot =>
    hslots slot (List.mem_append_right _ hslot)

theorem guarded (h : Outside deployment w w') (kind : RequestKind) :
    Guarded (kind.vault deployment) w w' := .of_le (h.held kind) (h.recorded kind)

theorem market (h : Outside deployment w w') :
    MarketStoreUtils.get w'.dataStore = MarketStoreUtils.get w.dataStore := by
  obtain ⟨slots, hsame, hslots⟩ := h.writes
  exact funext fun _ => MarketStoreUtils.get_sameOff hsame (hslots _ (by decide))
    (hslots _ (by decide)) _

end Outside

namespace MarketFactory

variable {marketToken indexToken longToken shortToken : Address} {marketType : Nat}
  {market : Market}

theorem createMarket_sameOff
    (h : createMarket marketToken indexToken longToken shortToken marketType w =
      .ok (market, w')) :
    World.SameOff [.constant .MARKET_LIST, .constant .MARKET_SALT, .market] w w' :=
  createMarket_writes (by decide) (by decide) (by decide) marketToken indexToken longToken
    shortToken marketType h

/-- The markets are those of before, and the new one. -/
theorem createMarket_market
    (h : createMarket marketToken indexToken longToken shortToken marketType w =
      .ok (market, w')) (key : Address) :
    MarketStoreUtils.get w'.dataStore key =
      if key = marketToken then ⟨marketToken, indexToken, longToken, shortToken⟩
      else MarketStoreUtils.get w.dataStore key := by
  obtain ⟨rfl, rfl⟩ := createMarket_eq_ok h
  split_ifs with hkey
  · rw [hkey]
    exact MarketStoreUtils.get_set_self _ _ _
  · refine MarketStoreUtils.get_set_of_ne hkey _ _ fun f => ?_
    simp [Keys.marketSaltHash]

theorem createMarket_marketsKeyed (hkeyed : MarketsKeyed w.dataStore)
    (h : createMarket marketToken indexToken longToken shortToken marketType w =
      .ok (market, w')) : MarketsKeyed w'.dataStore := by
  intro key
  rw [createMarket_market h key]
  split_ifs with hkey
  · exact fun _ => hkey.symm
  · exact hkeyed key

theorem createMarket_noMarkets (hnone : deployment.NoMarkets w.dataStore)
    (hvault : ∀ kind : RequestKind, marketToken ≠ kind.vault deployment)
    (h : createMarket marketToken indexToken longToken shortToken marketType w =
      .ok (market, w')) : deployment.NoMarkets w'.dataStore := by
  intro kind key
  rw [createMarket_market h key]
  split_ifs with hkey
  · exact hvault kind
  · exact hnone kind key

end MarketFactory

-- ---------------------------------------------------------------------------
-- The invariant
-- ---------------------------------------------------------------------------

/-- The vaults are solvent, in a state whose vaults can be settled. -/
structure Escrowed (deployment : Deployment) (w : World) : Prop
    extends Settleable deployment w where
  solvent : ∀ kind : RequestKind, (kind.escrow deployment w).Solvent

/-- What a step takes out of the vault of a kind it takes for one request, which is owed that much
less. The other requests are owed what they were. -/
structure PaysOne (deployment : Deployment) (kind : RequestKind) (key : StoreKey)
    (spent : Address → Nat) (w w' : World) : Prop where
  held : ∀ token, w.balances token (kind.vault deployment) ≤
    w'.balances token (kind.vault deployment) + spent token
  paid : ∀ token, (kind.escrow deployment w').owed key token + spent token ≤
    (kind.escrow deployment w).owed key token ∨ spent token = 0
  others : ∀ key' ≠ key, (kind.escrow deployment w').owed key' =
    (kind.escrow deployment w).owed key'

/-- What every step does to the vaults. -/
structure VaultStep (deployment : Deployment) (w w' : World) : Prop where
  settles : ∀ kind : RequestKind, ∃ key received spent, Escrow.Settles key received spent
    (kind.escrow deployment w) (kind.escrow deployment w')
  nonce_le : NonceUtils.getCurrentNonce w.dataStore ≤ NonceUtils.getCurrentNonce w'.dataStore
  given : ∀ (kind : RequestKind) (nonce : Nat), nonce ≤ NonceUtils.getCurrentNonce w.dataStore →
    .request nonce ∈ kind.store.keys w'.dataStore → .request nonce ∈ kind.store.keys w.dataStore

theorem VaultStep.of_same (hsame : SameRequests w w')
    (hguarded : ∀ kind : RequestKind, Guarded (kind.vault deployment) w w') :
    VaultStep deployment w w' where
  settles kind := ⟨.request 0, 0, 0, (hsame.same kind).settles (hguarded kind) _⟩
  nonce_le := hsame.nonce.ge
  given kind nonce _ hmem := by
    rwa [(hsame.same kind).keys] at hmem

theorem Settled.vaultStep {kind : RequestKind} {key : StoreKey}
    (h : Settled deployment kind key w w') : VaultStep deployment w w' where
  settles kind' := by
    by_cases hkind : kind' = kind
    · subst hkind
      exact ⟨key, h.settles⟩
    · obtain ⟨hsame, hguarded⟩ := h.others kind' hkind
      exact ⟨.request 0, 0, 0, hsame.settles hguarded _⟩
  nonce_le := h.nonce_le
  given kind' nonce hle hmem := by
    by_cases hkind : kind' = kind
    · subst hkind
      rcases h.given _ hmem with hold | ⟨hkey, nonce', hnonce, hlt, -⟩
      · exact hold
      · have heq := StoreKey.request.inj (hkey.trans hnonce)
        omega
    · rwa [(h.others kind' hkind).1.keys] at hmem

/-- Every step of the exchange keeps the keys apart and the vaults no markets, and settles. -/
theorem exchange_next (hsane : deployment.Sane) (hw : Settleable deployment w) {action : Action}
    (h : (exchange deployment).next action w w') :
    Settleable deployment w' ∧ VaultStep deployment w w' := by
  cases action with
  | call env call =>
    obtain ⟨key, hsettled⟩ := Call.settled hsane hw h
    have hmarket := Call.run_market h
    exact ⟨⟨hsettled.requestKeys hw.requestKeys, hw.marketsKeyed.of_market_eq hmarket,
      fun kind => (hw.noMarkets kind).of_market_eq hmarket⟩, hsettled.vaultStep⟩
  | createMarket marketToken indexToken longToken shortToken marketType =>
    obtain ⟨⟨-, -, hvault⟩, market, hcreate⟩ := h
    have hsame := MarketFactory.createMarket_sameOff hcreate
    have hrequests : SameRequests w w' := .of_sameOff hw.requestKeys hsame (by decide)
    exact ⟨⟨hrequests.requestKeys hw.requestKeys,
      MarketFactory.createMarket_marketsKeyed hw.marketsKeyed hcreate,
      MarketFactory.createMarket_noMarkets hw.noMarkets hvault hcreate⟩,
      .of_same hrequests fun _ => .of_sameOff hsame (by decide)⟩
  | outside =>
    have hrequests := Outside.sameRequests hw.requestKeys h
    have hmarket := Outside.market h
    exact ⟨⟨hrequests.requestKeys hw.requestKeys, hw.marketsKeyed.of_market_eq hmarket,
      fun kind => (hw.noMarkets kind).of_market_eq hmarket⟩, .of_same hrequests h.guarded⟩

/-- A fresh exchange owes nothing. -/
theorem Fresh.escrowed (hsane : deployment.Sane) (h : Fresh deployment w) :
    Escrowed deployment w where
  requestKeys :=
    { nodup := fun kind => by
        rw [h.requests kind]
        exact List.nodup_nil
      given := fun kind key hmem => by
        rw [h.requests kind] at hmem
        exact absurd hmem List.not_mem_nil
      disjoint := fun kind kind' key hmem => by
        rw [h.requests kind] at hmem
        exact absurd hmem List.not_mem_nil }
  marketsKeyed key hne := by
    have hmem := MarketStoreUtils.mem_of_marketToken_ne hne
    rw [h.markets] at hmem
    exact absurd hmem List.not_mem_nil
  noMarkets kind key := by
    rw [MarketStoreUtils.get_of_not_mem (by rw [h.markets]; exact List.not_mem_nil)]
    exact (hsane.vault_ne kind).symm
  solvent kind := by
    have hkeys : (kind.escrow deployment w).keys = [] := h.requests kind
    refine ⟨?_, ?_, ?_, h.covered kind⟩
    · rw [hkeys]
      exact List.nodup_nil
    · intro key hmem t
      rw [RequestKind.owed_of_not_mem hmem]
      rfl
    · intro t
      unfold Escrow.total
      rw [hkeys]
      exact Nat.zero_le _

/-- **Solvent vaults.** The invariant holds in every state that is reached. -/
theorem exchange_escrowed (hsane : deployment.Sane) (h : (exchange deployment).Reachable w) :
    Escrowed deployment w := by
  refine Machine.Reachable.invariant (P := Escrowed deployment)
    (fun _ hinit => Fresh.escrowed hsane hinit) ?_ h
  intro action w w' _ hnext hw
  obtain ⟨hw', hstep⟩ := exchange_next hsane hw.toSettleable hnext
  refine ⟨hw', fun kind => ?_⟩
  obtain ⟨key, received, spent, hsettles⟩ := hstep.settles kind
  exact (hw.solvent kind).step hsettles

/-- A key that has been given out and is not pending is not pending again. -/
theorem exchange_gone (hsane : deployment.Sane) (hreach : (exchange deployment).Reachable w)
    (hrun : (exchange deployment).Run w w') {kind : RequestKind} {nonce : Nat}
    (hle : nonce ≤ NonceUtils.getCurrentNonce w.dataStore)
    (hgone : .request nonce ∉ kind.store.keys w.dataStore) :
    .request nonce ∉ kind.store.keys w'.dataStore := by
  have hstable : nonce ≤ NonceUtils.getCurrentNonce w'.dataStore ∧
      .request nonce ∉ kind.store.keys w'.dataStore := by
    refine Machine.Run.stable (P := fun w => nonce ≤ NonceUtils.getCurrentNonce w.dataStore ∧
      .request nonce ∉ kind.store.keys w.dataStore) ?_ hreach ⟨hle, hgone⟩ hrun
    rintro action w w' hreach hnext ⟨hle, hgone⟩
    have hw := (exchange_escrowed hsane hreach).toSettleable
    obtain ⟨-, hstep⟩ := exchange_next hsane hw hnext
    exact ⟨hle.trans hstep.nonce_le, fun hmem => hgone (hstep.given kind nonce hle hmem)⟩
  exact hstable.2

/-- **Vault escrow.** In every state that is reached each vault holds the escrow of all its pending
requests and can record what arrives; every step pays one request of a kind, no more than what that
request is owed less; and a request that is gone is gone for good. -/
theorem vault_escrow (hsane : deployment.Sane) (h : (exchange deployment).Reachable w) :
    (∀ (kind : RequestKind) (token : Address),
      ((kind.store.keys w.dataStore).map fun key => kind.owed (TokenUtils.wnt w.dataStore)
        (kind.store.get w.dataStore key) token).sum ≤
          w.balances token (kind.vault deployment)) ∧
    (∀ (kind : RequestKind) (token : Address), ∃ received w',
      StrictBank.recordTransferIn (kind.vault deployment) token w = .ok (received, w')) ∧
    (∀ action w', (exchange deployment).next action w w' → ∀ kind : RequestKind,
      ∃ key spent, PaysOne deployment kind key spent w w') ∧
    (∀ w', (exchange deployment).Run w w' → ∀ (kind : RequestKind) (nonce : Nat),
      nonce ≤ NonceUtils.getCurrentNonce w.dataStore →
      .request nonce ∉ kind.store.keys w.dataStore →
      .request nonce ∉ kind.store.keys w'.dataStore) := by
  have hw := exchange_escrowed hsane h
  refine ⟨?_, ?_, ?_, ?_⟩
  · exact fun kind token => (hw.solvent kind).total_le_held token
  · intro kind token
    exact ⟨_, _, StrictBank.recordTransferIn_eq_ok.mpr
      ⟨(hw.solvent kind).covered token, rfl, rfl⟩⟩
  · intro action w' hnext kind
    obtain ⟨-, hstep⟩ := exchange_next hsane hw.toSettleable hnext
    obtain ⟨key, received, spent, hsettles⟩ := hstep.settles kind
    exact ⟨key, spent, hsettles.flow.held, hsettles.paid, hsettles.owed⟩
  · intro w' hrun kind nonce hle hgone
    exact exchange_gone hsane h hrun hle hgone

/-- A deployment, and a fresh exchange that 100 tokens and a fee of 5 have been sent to. -/
def escrowDeployment : Deployment := ⟨11, 12, 13, 14, 15, 16, 17, 18⟩

def escrowWorld : World where
  dataStore := DataStore.empty.setAddress (.base .WNT) 3
  balances token account := if account = 11 then if token = 4 then 100 else
    if token = 3 then 5 else 0 else 0
  totalSupply _ := 0
  tokenBalances _ _ := 0

def escrowSwap : BaseOrderUtils.CreateOrderParams where
  receiver := 9
  callbackContract := 0
  uiFeeReceiver := 0
  market := 0
  initialCollateralToken := 4
  swapPath := []
  sizeDeltaUsd := 0
  initialCollateralDeltaAmount := 0
  triggerPrice := 0
  acceptablePrice := 0
  executionFee := 5
  callbackGasLimit := 0
  minOutputAmount := 0
  orderType := .MarketSwap
  decreasePositionSwapType := .NoSwap
  isLong := false
  shouldUnwrapNativeToken := false

theorem escrowDeployment_sane : escrowDeployment.Sane where
  distinct kind kind' hne := by
    cases kind <;> cases kind' <;> first | exact absurd rfl hne | decide
  vault_ne kind := by cases kind <;> decide

theorem escrowWorld_fresh : Fresh escrowDeployment escrowWorld where
  markets := rfl
  positions := rfl
  requests kind := by cases kind <;> rfl
  aggregates _ := rfl
  covered _ _ := Nat.zero_le _

/-- A swap order is created, and the vault holds its 100 tokens. -/
theorem vault_escrow_createOrder :
    ∃ w, (exchange escrowDeployment).Reachable w ∧
      ((orderStore.keys w.dataStore).map fun key => RequestKind.order.owed
        (TokenUtils.wnt w.dataStore) (orderStore.get w.dataStore key) 4).sum = 100 ∧
      100 ≤ w.balances 4 11 := by
  let env := Env.plain 1 fun _ => ⟨1, 1⟩
  obtain ⟨⟨u, w⟩, hrun, howed⟩ := (by decide +kernel :
    Evm.Result.Satisfies ((Call.createOrder 9 escrowSwap).run env escrowDeployment escrowWorld)
      fun result => ((orderStore.keys result.2.dataStore).map fun key => RequestKind.order.owed
        (TokenUtils.wnt result.2.dataStore) (orderStore.get result.2.dataStore key) 4).sum =
          100).exists
  have hfresh : (exchange escrowDeployment).Reachable escrowWorld := .init escrowWorld_fresh
  have hreach : (exchange escrowDeployment).Reachable w :=
    hfresh.next (i := Action.call env (.createOrder 9 escrowSwap)) hrun
  have hheld := (vault_escrow escrowDeployment_sane hreach).1 .order 4
  exact ⟨w, hreach, howed, howed ▸ hheld⟩

end GmxSynthetics
