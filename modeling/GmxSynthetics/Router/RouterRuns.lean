import GmxSynthetics.Router.Router

/-!
# Tokens are sent by their owners

Whatever accounts have approved, and whatever is executed for or against them, their tokens go
only where they send them themselves, and the router sends no more than they have approved.

* `ExchangeRouter.Step` — what a call of the router does: to the exchange it is one of its calls,
  or something that others do;
* `routerMachine` — users through the router, keepers, and everybody else;
* `router_world` — it reaches only what the exchange reaches, so all that holds there holds here;
* `tokens_sent_by_owner` — tokens leave an account only with what it sends.
-/

namespace GmxSynthetics

open Evm

variable {env : Env} {deployment : Deployment} {router msgSender account : Address}
  {s s' : RouterState} {w w' : World} {u : Unit}

-- ---------------------------------------------------------------------------
-- Transfers
-- ---------------------------------------------------------------------------

@[simp]
theorem RouterState.world_spendAllowance (s : RouterState) (token account : Address)
    (amount : Nat) : (s.spendAllowance token account amount).world = s.world := by
  unfold spendAllowance
  split <;> rfl

/-- A transfer writes balances only. -/
theorem World.moveTokens_sameOff (w : World) (token sender receiver : Address) (amount : Nat) :
    World.SameOff [.tokens] w (w.moveTokens token sender receiver amount) :=
  Writes.writeTokens (f := (·.moveTokens token sender receiver amount))
    (List.mem_singleton_self _) (by intro _; rfl) rfl

/-- What a transfer by the router takes, is approved and there. -/
theorem Router.pluginTransfer_eq_ok {token receiver : Address} {amount : Nat}
    (h : pluginTransfer env token account receiver amount s = .ok (u, s')) :
    amount ≤ s.allowances token account ∧ amount ≤ s.world.balances token account ∧
      env.transferAccepted token receiver = true ∧
      s' = { s.spendAllowance token account amount with
        world := s.world.moveTokens token account receiver amount } := by
  unfold pluginTransfer at h
  simp only [↓Tx.read_bind_eq_ok, ↓Tx.lift_bind_eq_ok, ↓Tx.write_bind_eq_ok,
    Result.revertIf_eq_ok, RouterState.world_spendAllowance, onWorld_eq_ok, Tx.write_eq_ok] at h
  obtain ⟨_, hallowance, _, hbalance, _, haccepted, w, rfl, rfl⟩ := h
  exact ⟨Nat.le_of_not_lt hallowance, Nat.le_of_not_lt hbalance,
    Bool.eq_true_of_not_eq_false haccepted, rfl⟩

/-- Native tokens that are wrapped and sent cost nobody a token. -/
theorem TokenUtils.depositAndSendWrappedNativeToken_spends {sender receiver : Address}
    {amount : Nat} (h : depositAndSendWrappedNativeToken env sender receiver amount w =
      .ok (u, w')) : Spends account 0 w w' := by
  unfold depositAndSendWrappedNativeToken at h
  split at h
  · obtain ⟨-, rfl⟩ := Tx.pure_eq_ok.mp h
    exact .refl _ _ _
  · simp only [↓Tx.lift_bind_eq_ok, ↓readStore_bind_eq_ok, ↓Tx.write_bind_eq_ok] at h
    obtain ⟨_, -, h⟩ := h
    rcases transfer_eq_ok h with rfl | ⟨holder, rfl⟩
    · exact ⟨fun t => World.le_addBalance _ _ _ _ _ _, rfl⟩
    · exact ⟨fun t => World.le_wrapAndMove _ _ _ _ _ _ _, rfl⟩

/-- Native tokens are wrapped out of those that the router has. -/
theorem ExchangeRouter.sendWnt_eq_ok {receiver : Address} {amount : Nat}
    (h : sendWnt env router receiver amount s = .ok (u, s')) :
    receiver ≠ 0 ∧ amount ≤ s.nativeBalance ∧ ∃ w,
      TokenUtils.depositAndSendWrappedNativeToken env router receiver amount s.world =
        .ok ((), w) ∧
      s' = { s with world := w, nativeBalance := s.nativeBalance - amount } := by
  unfold sendWnt at h
  simp only [↓Tx.lift_bind_eq_ok, ↓Tx.read_bind_eq_ok, ↓Tx.write_bind_eq_ok,
    Result.revertIf_eq_ok, onWorld_eq_ok] at h
  obtain ⟨_, hreceiver, _, hbalance, w, hsend, rfl⟩ := h
  exact ⟨Result.revertIf_eq_ok.mp hreceiver, Nat.le_of_not_lt hbalance, w, hsend, rfl⟩

/-- Tokens are sent by a transfer from the caller. -/
theorem ExchangeRouter.sendTokens_eq_ok {token receiver : Address} {amount : Nat}
    (h : sendTokens env msgSender token receiver amount s = .ok (u, s')) :
    amount ≤ s.allowances token msgSender ∧ amount ≤ s.world.balances token msgSender ∧
      env.transferAccepted token receiver = true ∧
      s' = { s.spendAllowance token msgSender amount with
        world := s.world.moveTokens token msgSender receiver amount } := by
  unfold sendTokens at h
  simp only [↓Tx.lift_bind_eq_ok] at h
  obtain ⟨_, -, h⟩ := h
  exact Router.pluginTransfer_eq_ok h

/-- An interface sets its own factor. -/
theorem MarketUtils.setUiFeeFactor_writes {slots : List Slot}
    (hslot : Slot.constant .UI_FEE_FACTOR ∈ slots) (account : Address) (uiFeeFactor : Nat) :
    Writes slots (setUiFeeFactor account uiFeeFactor) := by
  unfold setUiFeeFactor
  refine (Writes.readStore _).bind fun maxUiFeeFactor => (Writes.lift _).bind fun _ => ?_
  exact .writeStore (.setUint hslot _)

-- ---------------------------------------------------------------------------
-- Calls of the router
-- ---------------------------------------------------------------------------

/-- What a call sends of its caller's tokens. -/
def RouterCall.sent : RouterCall → Address → Nat
  | .sendTokens token _ amount => tokenAmount token amount
  | _ => 0

namespace ExchangeRouter

/-- What a successful call of the router does. -/
inductive Step (env : Env) (deployment : Deployment) (router msgSender : Address)
    (s : RouterState) : RouterCall → RouterState → Prop where
  | wraps (receiver : Address) (amount : Nat) (w : World) (hcovered : amount ≤ s.nativeBalance)
      (hsend : TokenUtils.depositAndSendWrappedNativeToken env router receiver amount s.world =
        .ok ((), w)) :
      Step env deployment router msgSender s (.sendWnt receiver amount)
        { s with world := w, nativeBalance := s.nativeBalance - amount }
  | sends (token receiver : Address) (amount : Nat)
      (hallowed : amount ≤ s.allowances token msgSender)
      (hcovered : amount ≤ s.world.balances token msgSender)
      (haccepted : env.transferAccepted token receiver = true) :
      Step env deployment router msgSender s (.sendTokens token receiver amount)
        { s.spendAllowance token msgSender amount with
          world := s.world.moveTokens token msgSender receiver amount }
  | calls (routerCall : RouterCall) (call : Call) (w : World) (hsent : routerCall.sent = 0)
      (hrun : call.run env deployment s.world = .ok ((), w)) :
      Step env deployment router msgSender s routerCall { s with world := w }
  | claims (routerCall : RouterCall) (batch : ClaimBatch) (paid : List Paid) (w : World)
      (hsent : routerCall.sent = 0) (hrun : batch.run env s.world = .ok (paid, w)) :
      Step env deployment router msgSender s routerCall { s with world := w }
  | sets (uiFeeFactor : Nat) (w : World)
      (hset : MarketUtils.setUiFeeFactor msgSender uiFeeFactor s.world = .ok ((), w)) :
      Step env deployment router msgSender s (.setUiFeeFactor uiFeeFactor) { s with world := w }

/-- A successful call of the router is one of these. -/
theorem run_step {call : RouterCall} (h : run env deployment router msgSender call s =
    .ok (u, s')) : Step env deployment router msgSender s call s' := by
  cases call
  case sendWnt receiver amount =>
    obtain ⟨-, hcovered, w, hsend, rfl⟩ := sendWnt_eq_ok h
    exact .wraps receiver amount w hcovered hsend
  case sendTokens token receiver amount =>
    obtain ⟨hallowed, hcovered, haccepted, rfl⟩ := sendTokens_eq_ok h
    exact .sends token receiver amount hallowed hcovered haccepted
  case setUiFeeFactor uiFeeFactor =>
    obtain ⟨w, hset, rfl⟩ := onWorld_eq_ok.mp h
    exact .sets uiFeeFactor w hset
  case claimFundingFees markets tokens receiver =>
    obtain ⟨w, hrun, rfl⟩ := onWorld_eq_ok.mp h
    obtain ⟨paid, hrun⟩ := discard_eq_ok.mp hrun
    exact .claims _ (.fundingFees router msgSender markets tokens receiver) paid w rfl hrun
  case claimCollateral markets tokens timeKeys receiver =>
    obtain ⟨w, hrun, rfl⟩ := onWorld_eq_ok.mp h
    obtain ⟨paid, hrun⟩ := discard_eq_ok.mp hrun
    exact .claims _ (.collateral router msgSender markets tokens timeKeys receiver) paid w rfl hrun
  case claimAffiliateRewards markets tokens receiver =>
    obtain ⟨w, hrun, rfl⟩ := onWorld_eq_ok.mp h
    obtain ⟨paid, hrun⟩ := discard_eq_ok.mp hrun
    exact .claims _ (.affiliateRewards router msgSender markets tokens receiver) paid w rfl hrun
  case claimUiFees markets tokens receiver =>
    obtain ⟨w, hrun, rfl⟩ := onWorld_eq_ok.mp h
    obtain ⟨paid, hrun⟩ := discard_eq_ok.mp hrun
    exact .claims _ (.uiFees router msgSender markets tokens receiver) paid w rfl hrun
  -- the rest are calls of the exchange
  all_goals
    obtain ⟨w, hrun, rfl⟩ := onWorld_eq_ok.mp h
    exact .calls _ _ w rfl hrun

end ExchangeRouter

/-- What is only a transfer of tokens that no vault pays. -/
theorem Outside.of_spends (hsame : World.SameOff [.tokens] w w')
    (hspends : ∀ kind : RequestKind, Spends (kind.vault deployment) 0 w w') :
    Outside deployment w w' where
  writes := ⟨_, hsame, by decide⟩
  held kind := (hspends kind).held
  recorded kind := (hspends kind).recorded

/-- The account is nobody the exchange pays from. -/
structure IsUser (deployment : Deployment) (account : Address) (w : World) : Prop where
  ne_zero : account ≠ 0
  noVault : deployment.NoVault account
  noMarket : NoMarket account w.dataStore

theorem IsUser.of_market_eq (huser : IsUser deployment account w)
    (h : MarketStoreUtils.get w'.dataStore = MarketStoreUtils.get w.dataStore) :
    IsUser deployment account w' :=
  ⟨huser.ne_zero, huser.noVault, huser.noMarket.of_market_eq h⟩

namespace ExchangeRouter

variable {call : RouterCall}

/-- To the exchange it is one of its calls, or something that others do. -/
theorem Step.next (hsane : deployment.Sane) (hreach : (exchange deployment).Reachable s.world)
    (hsender : deployment.NoVault msgSender)
    (hstep : Step env deployment router msgSender s call s') :
    (∃ call, (exchange deployment).next (.call env call) s.world s'.world) ∨
      (exchange deployment).next .outside s.world s'.world := by
  cases hstep with
  | wraps receiver amount w _ hsend =>
    refine .inr (.of_spends ?_ fun kind => ?_)
    · exact TokenUtils.depositAndSendWrappedNativeToken_writes env (List.mem_singleton_self _) _ _
        _ hsend
    · exact TokenUtils.depositAndSendWrappedNativeToken_spends hsend
  | sends token receiver amount =>
    refine .inr (.of_spends (World.moveTokens_sameOff _ _ _ _ _) fun kind => ?_)
    have hspends := s.world.moveTokens_spends (kind.vault deployment) token msgSender receiver
      amount
    rwa [outflow_of_ne (hsender kind).symm] at hspends
  | calls _ call w _ hrun => exact .inl ⟨call, hrun⟩
  | claims _ batch paid w _ hrun =>
    exact .inr ((ClaimBatch.run_pays hrun).outside (exchange_escrowed hsane hreach).toSettleable)
  | sets uiFeeFactor w hset =>
    have hsame : World.SameOff [.constant .UI_FEE_FACTOR] s.world w :=
      MarketUtils.setUiFeeFactor_writes (List.mem_singleton_self _) _ _ hset
    refine .inr ⟨⟨_, hsame, by decide⟩, fun kind token => ?_, fun kind => ?_⟩
    · rw [(hsame.tokens (by decide)).1]
    · rw [(hsame.tokens (by decide)).2.2]

/-- It creates no market. -/
theorem Step.market (hsane : deployment.Sane) (hreach : (exchange deployment).Reachable s.world)
    (hsender : deployment.NoVault msgSender)
    (hstep : Step env deployment router msgSender s call s') :
    MarketStoreUtils.get s'.world.dataStore = MarketStoreUtils.get s.world.dataStore := by
  rcases hstep.next hsane hreach hsender with ⟨_, hcall⟩ | houtside
  · exact Call.run_market hcall
  · exact Outside.market houtside

/-- What it leaves is a state of the exchange again. -/
theorem Step.reachable (hsane : deployment.Sane)
    (hreach : (exchange deployment).Reachable s.world) (hsender : deployment.NoVault msgSender)
    (hstep : Step env deployment router msgSender s call s') :
    (exchange deployment).Reachable s'.world := by
  rcases hstep.next hsane hreach hsender with ⟨_, hcall⟩ | houtside
  · exact hreach.next hcall
  · exact hreach.next houtside

/-- Only the caller pays, and only for what the call sends. -/
theorem Step.spends (hsane : deployment.Sane)
    (hreach : (exchange deployment).Reachable s.world) (huser : IsUser deployment account s.world)
    (hstep : Step env deployment router msgSender s call s') (token : Address) :
    s.world.balances token account ≤
      s'.world.balances token account + if msgSender = account then call.sent token else 0 := by
  have hw := (exchange_escrowed hsane hreach).toSettleable
  cases hstep with
  | wraps receiver amount w _ hsend =>
    exact ((TokenUtils.depositAndSendWrappedNativeToken_spends hsend).held token).trans
      (Nat.add_le_add_left (Nat.zero_le _) _)
  | sends token' receiver amount =>
    have hheld := (s.world.moveTokens_spends account token' msgSender receiver amount).held token
    refine hheld.trans (Nat.add_le_add_left ?_ _)
    rw [outflow]
    split_ifs
    · exact le_refl _
    · exact le_refl _
  | calls _ call w _ hrun =>
    have hguarded := Call.guarded hsane hw huser.noVault huser.ne_zero huser.noMarket hrun
    exact (hguarded.held token).trans (Nat.le_add_right _ _)
  | claims _ batch paid w _ hrun =>
    have hspends := ((ClaimBatch.run_pays hrun).untouched hw.marketsKeyed account
      huser.noMarket).2
    exact (hspends.held token).trans (Nat.le_add_right _ _)
  | sets uiFeeFactor w hset =>
    have hsame : World.SameOff [.constant .UI_FEE_FACTOR] s.world w :=
      MarketUtils.setUiFeeFactor_writes (List.mem_singleton_self _) _ _ hset
    rw [(hsame.tokens (by decide)).1]
    exact Nat.le_add_right _ _

/-- What an account lets the router take is used up by what it sends, and by nothing else. -/
theorem Step.allowances (hstep : Step env deployment router msgSender s call s')
    {token : Address} (hfinite : s.allowances token account < uintBound - 1) :
    s.allowances token account = s'.allowances token account +
      if msgSender = account then call.sent token else 0 := by
  cases hstep with
  | wraps => simp [RouterCall.sent]
  | sends token' receiver amount hallowed =>
    show _ = (s.spendAllowance token' msgSender amount).allowances token account +
      if msgSender = account then tokenAmount token' amount token else 0
    unfold tokenAmount RouterState.spendAllowance RouterState.approve
    by_cases htoken : token = token'
    · subst htoken
      by_cases haccount : msgSender = account
      · subst haccount
        rw [if_neg (by omega), if_pos rfl, if_pos rfl]
        simp only [Function.update_self]
        omega
      · rw [if_neg haccount]
        split_ifs
        · rfl
        · simp [Ne.symm haccount]
    · split_ifs <;> simp [htoken]
  | calls _ _ _ hsent => simp [hsent]
  | claims _ _ _ _ hsent => simp [hsent]
  | sets => simp [RouterCall.sent]

end ExchangeRouter

-- ---------------------------------------------------------------------------
-- Batches
-- ---------------------------------------------------------------------------

/-- The exchange goes on, no market is created, and accounts send what `sent` says, of what they
have approved. -/
structure RouterSends (deployment : Deployment) (sent : Address → Address → Nat)
    (s s' : RouterState) : Prop where
  reachable : (exchange deployment).Reachable s'.world
  market : MarketStoreUtils.get s'.world.dataStore = MarketStoreUtils.get s.world.dataStore
  spends : ∀ account, IsUser deployment account s.world → ∀ token,
    s.world.balances token account ≤ s'.world.balances token account + sent account token
  allowances : ∀ account token, s.allowances token account < uintBound - 1 →
    s.allowances token account = s'.allowances token account + sent account token

namespace RouterSends

theorem refl (hreach : (exchange deployment).Reachable s.world) :
    RouterSends deployment (fun _ _ => 0) s s where
  reachable := hreach
  market := rfl
  spends _ _ _ := Nat.le_refl _
  allowances _ _ _ := rfl

theorem trans {sent sent' : Address → Address → Nat} {s₁ : RouterState}
    (h : RouterSends deployment sent s s₁) (h' : RouterSends deployment sent' s₁ s') :
    RouterSends deployment (sent + sent') s s' where
  reachable := h'.reachable
  market := h'.market.trans h.market
  spends account huser token := by
    have hfirst := h.spends account huser token
    have hrest := h'.spends account (huser.of_market_eq h.market) token
    simp only [Pi.add_apply]
    omega
  allowances account token hfinite := by
    have hfirst := h.allowances account token hfinite
    have hrest := h'.allowances account token (by omega)
    simp only [Pi.add_apply]
    omega

end RouterSends

/-- What the calls of a batch send of their caller's tokens. -/
def sentByBatch (msgSender : Address) (calls : List RouterCall) (account token : Address) : Nat :=
  if msgSender = account then (calls.map (·.sent token)).sum else 0

theorem sentByBatch_cons (msgSender : Address) (call : RouterCall) (calls : List RouterCall) :
    sentByBatch msgSender (call :: calls) =
      (fun account token => if msgSender = account then call.sent token else 0) +
        sentByBatch msgSender calls := by
  funext account token
  simp only [sentByBatch, List.map_cons, List.sum_cons, Pi.add_apply]
  split_ifs <;> rfl

namespace ExchangeRouter

/-- A call sends what it names. -/
theorem Step.routerSends {call : RouterCall} (hsane : deployment.Sane)
    (hreach : (exchange deployment).Reachable s.world) (hsender : deployment.NoVault msgSender)
    (hstep : Step env deployment router msgSender s call s') :
    RouterSends deployment (fun account token => if msgSender = account then call.sent token else 0)
      s s' where
  reachable := hstep.reachable hsane hreach hsender
  market := hstep.market hsane hreach hsender
  spends _ huser token := hstep.spends hsane hreach huser token
  allowances _ _ hfinite := hstep.allowances hfinite

/-- Calls one after the other send what they name together. -/
theorem runEach_sends (hsane : deployment.Sane) (hsender : deployment.NoVault msgSender)
    {calls : List RouterCall} (hreach : (exchange deployment).Reachable s.world)
    (h : runEach env deployment router msgSender calls s = .ok (u, s')) :
    RouterSends deployment (sentByBatch msgSender calls) s s' := by
  induction calls generalizing s with
  | nil =>
    obtain ⟨-, rfl⟩ := Tx.pure_eq_ok.mp h
    have hnone : sentByBatch msgSender [] = fun _ _ => 0 := by
      funext account token
      simp [sentByBatch]
    rw [hnone]
    exact .refl hreach
  | cons call calls ih =>
    obtain ⟨_, s₁, hcall, h⟩ := Tx.bind_eq_ok.mp h
    have hfirst := (run_step hcall).routerSends hsane hreach hsender
    rw [sentByBatch_cons]
    exact hfirst.trans (ih hfirst.reachable h)

/-- So does a batch, whatever native tokens come with it. -/
theorem multicall_sends (hsane : deployment.Sane) (hsender : deployment.NoVault msgSender)
    {msgValue : Nat} {calls : List RouterCall}
    (hreach : (exchange deployment).Reachable s.world)
    (h : multicall env deployment router msgSender msgValue calls s = .ok (u, s')) :
    RouterSends deployment (sentByBatch msgSender calls) s s' := by
  simp only [multicall, ↓Tx.write_bind_eq_ok] at h
  let s₁ : RouterState := { s with nativeBalance := s.nativeBalance + msgValue }
  have hreach₁ : (exchange deployment).Reachable s₁.world := hreach
  have hsends := runEach_sends hsane hsender hreach₁ h
  exact ⟨hsends.reachable, hsends.market, hsends.spends, hsends.allowances⟩

end ExchangeRouter

-- ---------------------------------------------------------------------------
-- The machine
-- ---------------------------------------------------------------------------

/-- What users, keepers and everybody else do. -/
inductive RouterAction where
  | approve (token account : Address) (amount : Nat)
  | transfer (token sender receiver : Address) (amount : Nat)
  | multicall (env : Env) (msgSender : Address) (msgValue : Nat) (calls : List RouterCall)
  | call (env : Env) (call : Call)
  | createMarket (marketToken indexToken longToken shortToken : Address) (marketType : Nat)
  | setting

/-- Users call through the router, keepers call the handlers, tokens are transferred by those who
have them, and settings are made. The contracts of the exchange neither call the router nor
transfer on their own account. -/
def routerMachine (deployment : Deployment) (router : Address) :
    Machine RouterState RouterAction where
  init s := Fresh deployment s.world
  next action s s' :=
    match action with
    | .approve token account amount => s' = s.approve token account amount
    | .transfer token sender receiver amount =>
      deployment.NoVault sender ∧ amount ≤ s.world.balances token sender ∧
        s' = { s with world := s.world.moveTokens token sender receiver amount }
    | .multicall env msgSender msgValue calls =>
      deployment.NoVault msgSender ∧
        ExchangeRouter.multicall env deployment router msgSender msgValue calls s = .ok ((), s')
    | .call env call => onWorld (call.run env deployment) s = .ok ((), s')
    | .createMarket marketToken indexToken longToken shortToken marketType =>
      ∃ w, (exchange deployment).next
          (.createMarket marketToken indexToken longToken shortToken marketType) s.world w ∧
        s' = { s with world := w }
    | .setting =>
      ∃ slots w, World.SameOff slots s.world w ∧ (∀ slot ∈ .tokens :: exchangeSlots, slot ∉ slots) ∧
        s' = { s with world := w }

/-- What an account sends by an action, through the router or by itself. -/
def RouterAction.sent (account token : Address) : RouterAction → Nat
  | .transfer token' sender _ amount =>
    if sender = account then tokenAmount token' amount token else 0
  | .multicall _ msgSender _ calls => sentByBatch msgSender calls account token
  | _ => 0

/-- What an account sends by an action through the router. -/
def RouterAction.routed (account token : Address) : RouterAction → Nat
  | .multicall _ msgSender _ calls => sentByBatch msgSender calls account token
  | _ => 0

/-- The action deploys a market token under the address. -/
def RouterAction.Deploys (account : Address) : RouterAction → Prop
  | .createMarket marketToken .. => marketToken = account
  | _ => False

/-- The action sets what the router may take. -/
def RouterAction.Approves (account token : Address) : RouterAction → Prop
  | .approve token' account' _ => token' = token ∧ account' = account
  | _ => False

section Machine

variable (hsane : deployment.Sane)

include hsane

/-- To the exchange every action is one of its steps, or several. -/
theorem routerMachine_reachable {action : RouterAction}
    (hreach : (exchange deployment).Reachable s.world)
    (h : (routerMachine deployment router).next action s s') :
    (exchange deployment).Reachable s'.world := by
  cases action with
  | approve token account amount =>
    obtain rfl := h
    exact hreach
  | transfer token sender receiver amount =>
    obtain ⟨hsender, -, rfl⟩ := h
    have houtside : Outside deployment s.world
        (s.world.moveTokens token sender receiver amount) := by
      refine .of_spends (World.moveTokens_sameOff _ _ _ _ _) fun kind => ?_
      have hspends := s.world.moveTokens_spends (kind.vault deployment) token sender receiver amount
      rwa [outflow_of_ne (hsender kind).symm] at hspends
    exact hreach.next (i := .outside) houtside
  | multicall env msgSender msgValue calls =>
    obtain ⟨hsender, h⟩ := h
    exact (ExchangeRouter.multicall_sends hsane hsender hreach h).reachable
  | call env call =>
    obtain ⟨w, hrun, rfl⟩ := onWorld_eq_ok.mp h
    exact hreach.next (i := .call env call) hrun
  | createMarket marketToken indexToken longToken shortToken marketType =>
    obtain ⟨w, hcreate, rfl⟩ := h
    exact hreach.next hcreate
  | setting =>
    obtain ⟨slots, w, hsame, hslots, rfl⟩ := h
    have htokens := hsame.tokens (hslots _ List.mem_cons_self)
    have houtside : Outside deployment s.world w := by
      refine ⟨⟨slots, hsame, fun slot hslot => hslots _ (List.mem_cons_of_mem _ hslot)⟩, ?_, ?_⟩
      · intro kind token
        rw [htokens.1]
      · intro kind
        rw [htokens.2.2]
    exact hreach.next (i := .outside) houtside

/-- **What users do through the router and others around it, the exchange reaches by its own
steps.** -/
theorem router_world (h : (routerMachine deployment router).Reachable s) :
    (exchange deployment).Reachable s.world :=
  Machine.Reachable.invariant (P := fun s => (exchange deployment).Reachable s.world)
    (fun _ hinit => .init hinit)
    (fun _ _ _ _ hnext hreach => routerMachine_reachable hsane hreach hnext) h

/-- A user stays one as long as no market token is deployed under its address. -/
theorem routerMachine_isUser {action : RouterAction}
    (hreach : (exchange deployment).Reachable s.world) (huser : IsUser deployment account s.world)
    (hdeploys : ¬ action.Deploys account)
    (h : (routerMachine deployment router).next action s s') :
    IsUser deployment account s'.world := by
  cases action with
  | approve token account amount =>
    obtain rfl := h
    exact huser
  | transfer token sender receiver amount =>
    obtain ⟨-, -, rfl⟩ := h
    exact huser.of_market_eq rfl
  | multicall env msgSender msgValue calls =>
    obtain ⟨hsender, h⟩ := h
    exact huser.of_market_eq (ExchangeRouter.multicall_sends hsane hsender hreach h).market
  | call env call =>
    obtain ⟨w, hrun, rfl⟩ := onWorld_eq_ok.mp h
    exact huser.of_market_eq (Call.run_market hrun)
  | createMarket marketToken indexToken longToken shortToken marketType =>
    obtain ⟨w, ⟨-, market, hcreate⟩, rfl⟩ := h
    refine ⟨huser.ne_zero, huser.noVault, fun key => ?_⟩
    rw [MarketFactory.createMarket_market hcreate key]
    split_ifs
    · exact hdeploys
    · exact huser.noMarket key
  | setting =>
    obtain ⟨slots, w, hsame, hslots, rfl⟩ := h
    have hmarket : ∀ slot ∈ exchangeSlots, slot ∉ slots := fun slot hslot =>
      hslots _ (List.mem_cons_of_mem _ hslot)
    exact ⟨huser.ne_zero, huser.noVault,
      huser.noMarket.of_sameOff hsame (hmarket _ (by decide)) (hmarket _ (by decide))⟩

/-- An action takes of a user's tokens what the user sends by it. -/
theorem routerMachine_spends {action : RouterAction}
    (hreach : (exchange deployment).Reachable s.world) (huser : IsUser deployment account s.world)
    (h : (routerMachine deployment router).next action s s') (token : Address) :
    s.world.balances token account ≤
      s'.world.balances token account + action.sent account token := by
  cases action with
  | approve token account amount =>
    obtain rfl := h
    exact Nat.le_refl _
  | transfer token' sender receiver amount =>
    obtain ⟨-, -, rfl⟩ := h
    have hheld := (s.world.moveTokens_spends account token' sender receiver amount).held token
    refine hheld.trans (Nat.add_le_add_left ?_ _)
    show outflow account sender token' amount token ≤
      if sender = account then tokenAmount token' amount token else 0
    unfold outflow
    split_ifs
    · exact Nat.le_refl _
    · exact Nat.le_refl _
  | multicall env msgSender msgValue calls =>
    obtain ⟨hsender, h⟩ := h
    exact (ExchangeRouter.multicall_sends hsane hsender hreach h).spends account huser token
  | call env call =>
    obtain ⟨w, hrun, rfl⟩ := onWorld_eq_ok.mp h
    have hw := (exchange_escrowed hsane hreach).toSettleable
    exact (Call.guarded hsane hw huser.noVault huser.ne_zero huser.noMarket hrun).held token
  | createMarket marketToken indexToken longToken shortToken marketType =>
    obtain ⟨w, ⟨-, market, hcreate⟩, rfl⟩ := h
    have hsame := MarketFactory.createMarket_sameOff hcreate
    show _ ≤ w.balances token account + 0
    rw [(hsame.tokens (by decide)).1]
    exact Nat.le_refl _
  | setting =>
    obtain ⟨slots, w, hsame, hslots, rfl⟩ := h
    show _ ≤ w.balances token account + 0
    rw [(hsame.tokens (hslots _ List.mem_cons_self)).1]
    exact Nat.le_refl _

/-- What the router may take shrinks by what is sent through it, until it is approved again. -/
theorem routerMachine_allowances {action : RouterAction} {token : Address}
    (hreach : (exchange deployment).Reachable s.world)
    (hfinite : s.allowances token account < uintBound - 1)
    (happroves : ¬ action.Approves account token)
    (h : (routerMachine deployment router).next action s s') :
    s.allowances token account =
      s'.allowances token account + action.routed account token := by
  cases action with
  | approve token' account' amount =>
    obtain rfl := h
    show _ = (s.approve token' account' amount).allowances token account + 0
    unfold RouterState.approve
    by_cases htoken : token = token'
    · subst htoken
      have haccount : account ≠ account' := fun heq => happroves ⟨rfl, heq.symm⟩
      simp [haccount]
    · simp [htoken]
  | transfer token' sender receiver amount =>
    obtain ⟨-, -, rfl⟩ := h
    rfl
  | multicall env msgSender msgValue calls =>
    obtain ⟨hsender, h⟩ := h
    exact (ExchangeRouter.multicall_sends hsane hsender hreach h).allowances account token hfinite
  | call env call =>
    obtain ⟨w, -, rfl⟩ := onWorld_eq_ok.mp h
    rfl
  | createMarket marketToken indexToken longToken shortToken marketType =>
    obtain ⟨w, -, rfl⟩ := h
    rfl
  | setting =>
    obtain ⟨slots, w, -, -, rfl⟩ := h
    rfl

/-- **Tokens are sent by their owners**: over any run, an account that is neither a vault nor a
market has at most what it sent itself less of a token, and what it sent through the router it had
approved. -/
theorem tokens_sent_by_owner {actions : List RouterAction}
    (hreach : (routerMachine deployment router).Reachable s)
    (huser : IsUser deployment account s.world)
    (hdeploys : ∀ action ∈ actions, ¬ action.Deploys account)
    (hrun : (routerMachine deployment router).Trace s actions s') (token : Address) :
    (exchange deployment).Reachable s'.world ∧
    s.world.balances token account ≤ s'.world.balances token account +
      (actions.map (·.sent account token)).sum ∧
    (s.allowances token account < uintBound - 1 →
      (∀ action ∈ actions, ¬ action.Approves account token) →
      s.allowances token account = s'.allowances token account +
        (actions.map (·.routed account token)).sum) := by
  refine ⟨router_world hsane (hreach.run hrun.run), ?_, fun hfinite happroves => ?_⟩
  · refine hrun.total (r := (· ≤ ·)) (P := fun s => IsUser deployment account s.world)
      (fun s => s.world.balances token account) _ (fun _ _ c h => Nat.add_le_add_right h c) ?_
      hreach huser hdeploys
    intro action s s' hs hdeploys hnext huser
    have hworld := router_world hsane hs
    exact ⟨routerMachine_isUser hsane hworld huser hdeploys hnext,
      routerMachine_spends hsane hworld huser hnext token⟩
  · refine hrun.total (r := (· = ·)) (P := fun s => s.allowances token account < uintBound - 1)
      (fun s => s.allowances token account) _ (fun _ _ c h => congrArg (· + c) h) ?_
      hreach hfinite happroves
    intro action s s' hs happroves hnext hfinite
    have hshrinks := routerMachine_allowances hsane (router_world hsane hs) hfinite happroves hnext
    exact ⟨by omega, hshrinks⟩

end Machine

/-- An account with 100 tokens, 80 of which the router may take. -/
def approvedState : RouterState where
  world := { escrowWorld with
    dataStore := escrowWorld.dataStore.setUint (Keys.tokenTransferGasLimit 3) 1
    balances := fun token account => if token = 4 ∧ account = 9 then 100 else 0 }
  nativeBalance := 0
  allowances token account := if token = 4 ∧ account = 9 then 80 else 0

/-- It sends 60 of them to the order vault and has an order for them, in one batch. -/
theorem tokens_sent_by_owner_createOrder :
    ∃ s', (routerMachine escrowDeployment 20).Trace approvedState
        [.multicall (Env.plain 1 fun _ => ⟨1, 1⟩) 9 5
          [.sendWnt 11 5, .sendTokens 4 11 60, .createOrder escrowSwap]] s' ∧
      orderStore.keys s'.world.dataStore = [.request 1] ∧
      100 ≤ s'.world.balances 4 9 + 60 ∧ 80 = s'.allowances 4 9 + 60 := by
  obtain ⟨⟨u, s'⟩, hrun, hkeys⟩ := (by decide +kernel :
    Evm.Result.Satisfies (ExchangeRouter.multicall (Env.plain 1 fun _ => ⟨1, 1⟩) escrowDeployment
        20 9 5 [.sendWnt 11 5, .sendTokens 4 11 60, .createOrder escrowSwap] approvedState)
      fun result => orderStore.keys result.2.world.dataStore = [.request 1]).exists
  have hfresh : Fresh escrowDeployment approvedState.world :=
    { markets := rfl
      positions := rfl
      requests := fun kind => by cases kind <;> rfl
      aggregates := fun x => by cases x <;> rfl
      covered := fun _ _ => Nat.zero_le _ }
  have hreach : (routerMachine escrowDeployment 20).Reachable approvedState := .init hfresh
  have hvault : escrowDeployment.NoVault 9 := fun kind => by cases kind <;> decide
  have huser : IsUser escrowDeployment 9 approvedState.world :=
    ⟨by decide, hvault, fun key => by
      rw [MarketStoreUtils.get_of_not_mem (by rw [hfresh.markets]; exact List.not_mem_nil)]
      decide⟩
  have htrace := Machine.Trace.cons (M := routerMachine escrowDeployment 20)
    (i := .multicall (Env.plain 1 fun _ => ⟨1, 1⟩) 9 5
      [.sendWnt 11 5, .sendTokens 4 11 60, .createOrder escrowSwap]) ⟨hvault, hrun⟩ (.nil s')
  have hsent := tokens_sent_by_owner escrowDeployment_sane hreach huser
    (by simp [RouterAction.Deploys]) htrace 4
  exact ⟨s', htrace, hkeys, hsent.2.1, hsent.2.2 (by decide) (by simp [RouterAction.Approves])⟩

end GmxSynthetics
