import GmxSynthetics.Exchange.VaultEscrow

/-!
# Every call settles one request

Creating a request takes no more than what has arrived in its vault, updating one tops up its fee,
freezing one pays its fee out, and cancelling or executing one removes it and pays out no more than
it was owed.

* `createOrder_settled`, `updateOrder_settled`, `freezeOrder_settled`, `cancelOrder_settled`,
  `executeOrder_settled` and those of deposits and withdrawals.
-/

namespace GmxSynthetics

open Evm BaseOrderUtils

variable {env : Env} {deployment : Deployment} {w w' w₁ : World} {key : StoreKey} {u : Unit}
  {vault : Address}

-- ---------------------------------------------------------------------------
-- Amounts that have arrived
-- ---------------------------------------------------------------------------

theorem StrictBank.recordTransferIn_dataStore {bank token : Address} {received : Nat}
    (h : recordTransferIn bank token w = .ok (received, w')) : w'.dataStore = w.dataStore := by
  obtain ⟨-, -, rfl⟩ := recordTransferIn_eq_ok.mp h
  rfl

namespace OrderUtils

theorem recordExecutionFee_flow {executionFee fee : Nat}
    (h : recordExecutionFee vault executionFee w = .ok (fee, w')) :
    w'.dataStore = w.dataStore ∧ Flow (w.vaultBalance vault)
      (tokenAmount (TokenUtils.wnt w.dataStore) fee) 0 (w'.vaultBalance vault) := by
  unfold recordExecutionFee at h
  simp only [↓readStore_bind_eq_ok] at h
  obtain ⟨_, w₁, hrecord, h⟩ := Tx.bind_eq_ok.mp h
  simp only [↓Tx.lift_bind_eq_ok, Tx.pure_eq_ok] at h
  obtain ⟨_, -, rfl, rfl⟩ := h
  exact ⟨StrictBank.recordTransferIn_dataStore hrecord, StrictBank.recordTransferIn_flow hrecord⟩

/-- A new order is owed what has arrived for it. When its collateral is the wrapped native token,
collateral and fee have arrived together. -/
theorem recordOrderAmounts_flow {params : CreateOrderParams} {amount fee : Nat}
    (h : recordOrderAmounts vault params w = .ok ((amount, fee), w')) (env : Env)
    (account : Address) :
    w'.dataStore = w.dataStore ∧ ∃ received,
      Flow (w.vaultBalance vault) received 0 (w'.vaultBalance vault) ∧
      ∀ t, orderEscrow (TokenUtils.wnt w.dataStore) (makeOrder env account params amount fee) t ≤
        received t := by
  have hcollateral : ∀ {run : Tx (Nat × Nat)}, run = (do
      let initialCollateralDeltaAmount ←
        StrictBank.recordTransferIn vault params.initialCollateralToken
      if params.initialCollateralToken = TokenUtils.wnt w.dataStore then
        revertIf (initialCollateralDeltaAmount < params.executionFee)
          (.InsufficientWntAmountForExecutionFee initialCollateralDeltaAmount params.executionFee)
        pure (← sub initialCollateralDeltaAmount params.executionFee, params.executionFee)
      else
        let executionFee ← recordExecutionFee vault params.executionFee
        pure (initialCollateralDeltaAmount, executionFee)) →
      run w = .ok ((amount, fee), w') → w'.dataStore = w.dataStore ∧ ∃ received,
        Flow (w.vaultBalance vault) received 0 (w'.vaultBalance vault) ∧
        ∀ t, tokenAmount params.initialCollateralToken amount t +
          tokenAmount (TokenUtils.wnt w.dataStore) fee t ≤ received t := by
    rintro run rfl hrun
    obtain ⟨initialCollateralDeltaAmount, w₁, hrecord, hrun⟩ := Tx.bind_eq_ok.mp hrun
    have hstore := StrictBank.recordTransferIn_dataStore hrecord
    have hflow := StrictBank.recordTransferIn_flow hrecord
    split at hrun
    case isTrue hwnt =>
      simp only [↓Tx.lift_bind_eq_ok, sub_eq_ok, Tx.pure_eq_ok, Prod.mk.injEq] at hrun
      obtain ⟨_, -, _, ⟨hle, rfl⟩, ⟨rfl, rfl⟩, rfl⟩ := hrun
      refine ⟨hstore, _, hflow, fun t => ?_⟩
      rw [hwnt]
      unfold tokenAmount
      split_ifs <;> omega
    case isFalse =>
      obtain ⟨executionFee, w₂, hfee, hrun⟩ := Tx.bind_eq_ok.mp hrun
      simp only [Tx.pure_eq_ok, Prod.mk.injEq] at hrun
      obtain ⟨⟨rfl, rfl⟩, rfl⟩ := hrun
      obtain ⟨hstore', hflow'⟩ := recordExecutionFee_flow hfee
      rw [hstore] at hflow'
      exact ⟨hstore'.trans hstore, _, hflow.trans hflow', fun _ => Nat.le_refl _⟩
  have hfee : ∀ {run : Tx (Nat × Nat)}, run = (do
      let executionFee ← recordExecutionFee vault params.executionFee
      pure (params.initialCollateralDeltaAmount, executionFee)) →
      run w = .ok ((amount, fee), w') → w'.dataStore = w.dataStore ∧ ∃ received,
        Flow (w.vaultBalance vault) received 0 (w'.vaultBalance vault) ∧
        ∀ t, 0 + tokenAmount (TokenUtils.wnt w.dataStore) fee t ≤ received t := by
    rintro run rfl hrun
    obtain ⟨executionFee, w₁, hfee, hrun⟩ := Tx.bind_eq_ok.mp hrun
    simp only [Tx.pure_eq_ok, Prod.mk.injEq] at hrun
    obtain ⟨⟨rfl, rfl⟩, rfl⟩ := hrun
    obtain ⟨hstore, hflow⟩ := recordExecutionFee_flow hfee
    exact ⟨hstore, _, hflow, fun t => (Nat.zero_add _).le⟩
  unfold recordOrderAmounts at h
  simp only [↓readStore_bind_eq_ok] at h
  have hescrow : ∀ t, orderEscrow (TokenUtils.wnt w.dataStore)
      (makeOrder env account params amount fee) t =
        (if isIncreaseOrder params.orderType = true ∨ isSwapOrder params.orderType = true then
          tokenAmount params.initialCollateralToken amount else 0) t +
        tokenAmount (TokenUtils.wnt w.dataStore) fee t := fun _ => rfl
  simp only [hescrow]
  cases htype : params.orderType <;> rw [htype] at h
  case MarketSwap => exact hcollateral rfl h
  case LimitSwap => exact hcollateral rfl h
  case MarketIncrease => exact hcollateral rfl h
  case LimitIncrease => exact hcollateral rfl h
  case MarketDecrease => exact hfee rfl h
  case LimitDecrease => exact hfee rfl h
  case StopLossDecrease => exact hfee rfl h
  case Liquidation => exact absurd h (by simp [revert, Tx.lift_eq_ok])

end OrderUtils

/-- A request is stored under the next key. -/
theorem World.withRequest_sets {kind : RequestKind} {record : kind.Record}
    (hkeys : RequestKeys w.dataStore) (hstore : w₁.dataStore = w.dataStore) :
    Sets kind (.request (NonceUtils.getCurrentNonce w.dataStore + 1)) record w
        (w₁.withRequest kind.store record) ∧
      NonceUtils.getCurrentNonce (w₁.withRequest kind.store record).dataStore =
        NonceUtils.getCurrentNonce w.dataStore + 1 := by
  let nonce := NonceUtils.getCurrentNonce w₁.dataStore + 1
  let w₂ : World := { w₁ with dataStore := w₁.dataStore.setUint (.base .NONCE) nonce }
  have hnonce : nonce = NonceUtils.getCurrentNonce w.dataStore + 1 := by
    rw [← hstore]
  have hcounted : World.SameOff [.constant .NONCE] w₁ w₂ :=
    DataStore.ChangesWithin.setUint (List.mem_singleton_self (Slot.constant .NONCE)) nonce w₁
  have hsame₁ := SameRequests.of_dataStore_eq hstore
  have hkeys₁ := hsame₁.requestKeys hkeys
  have hsame : ∀ kind' : RequestKind, kind'.Same w w₂ := by
    intro kind'
    refine (hsame₁.same kind').trans (.of_sameOff hcounted (fun _ hmem => hkeys₁.slot hmem) ?_
      (by decide) (by decide))
    cases kind' <;> decide
  have hfresh : ∀ kind' : RequestKind, .request nonce ∉ kind'.store.keys w₂.dataStore := by
    intro kind'
    rw [(hsame kind').keys, hnonce]
    exact hkeys.next_not_mem kind'
  rw [← hnonce]
  refine ⟨.after_same hsame (Sets.of_set _ fun kind' _ => hfresh kind'), ?_⟩
  have hcount : NonceUtils.getCurrentNonce (kind.store.set w₂.dataStore (.request nonce)
      record) = NonceUtils.getCurrentNonce w₂.dataStore :=
    (kind.store.set_agreeAt fun f => by simp).uint
  show NonceUtils.getCurrentNonce (kind.store.set w₂.dataStore (.request nonce) record) = _
  rw [hcount]
  simp [NonceUtils.getCurrentNonce, DataStore.getUint, DataStore.setUint, w₂]

/-- A request under the next key that is owed no more than what has arrived. -/
theorem World.withRequest_settled (kind : RequestKind) {record : kind.Record}
    {received : Address → Nat} (hkeys : RequestKeys w.dataStore)
    (hstore : w₁.dataStore = w.dataStore)
    (hflow : Flow (w.vaultBalance (kind.vault deployment)) received 0
      (w₁.vaultBalance (kind.vault deployment)))
    (howed : ∀ t, kind.owed (TokenUtils.wnt w.dataStore) record t ≤ received t)
    (hothers : ∀ kind' ≠ kind, Guarded (kind'.vault deployment) w w₁) :
    Settled deployment kind (.request (NonceUtils.getCurrentNonce w.dataStore + 1)) w
      (w₁.withRequest kind.store record) := by
  obtain ⟨hsets, hnonce⟩ : Sets kind _ record w (w₁.withRequest kind.store record) ∧ _ :=
    World.withRequest_sets hkeys hstore
  refine hsets.settled (Or.inr ⟨rfl, hnonce⟩) hflow ?_ (fun _ => Or.inr rfl) hothers
  exact fun t => (howed t).trans (Nat.le_add_left _ _)

-- ---------------------------------------------------------------------------
-- Orders
-- ---------------------------------------------------------------------------

/-- Each vault is an account of its own. -/
def Deployment.Distinct (deployment : Deployment) : Prop :=
  ∀ kind kind' : RequestKind, kind ≠ kind' → kind.vault deployment ≠ kind'.vault deployment

namespace OrderUtils

/-- What comes in at another bank is recorded there. -/
theorem recordOrderAmounts_guards {bank : Address} (hbank : bank ≠ vault)
    (params : CreateOrderParams) : Guards vault (recordOrderAmounts bank params) := by
  have hrecord : Guards vault (recordExecutionFee bank params.executionFee) := by
    unfold recordExecutionFee
    refine (Guards.readStore _).bind fun wnt => ?_
    refine (StrictBank.recordTransferIn_guards hbank _).bind fun wntAmount => ?_
    exact (Guards.lift _).bind fun _ => .pure _
  have hfee : Guards vault (do
      let executionFee ← recordExecutionFee bank params.executionFee
      pure (params.initialCollateralDeltaAmount, executionFee)) := hrecord.bind fun _ => .pure _
  have hcollateral : ∀ wnt : Address, Guards vault (do
      let initialCollateralDeltaAmount ←
        StrictBank.recordTransferIn bank params.initialCollateralToken
      if params.initialCollateralToken = wnt then
        revertIf (initialCollateralDeltaAmount < params.executionFee)
          (.InsufficientWntAmountForExecutionFee initialCollateralDeltaAmount params.executionFee)
        pure (← sub initialCollateralDeltaAmount params.executionFee, params.executionFee)
      else
        let executionFee ← recordExecutionFee bank params.executionFee
        pure (initialCollateralDeltaAmount, executionFee)) := by
    intro wnt
    refine (StrictBank.recordTransferIn_guards hbank _).bind fun _ => .ite ?_ ?_
    · exact (Guards.lift _).bind fun _ => (Guards.lift _).bind fun _ => .pure _
    · exact hrecord.bind fun _ => .pure _
  refine (Guards.readStore _).bind fun wnt => ?_
  cases params.orderType with
  | MarketSwap => exact hcollateral wnt
  | LimitSwap => exact hcollateral wnt
  | MarketIncrease => exact hcollateral wnt
  | LimitIncrease => exact hcollateral wnt
  | MarketDecrease => exact hfee
  | LimitDecrease => exact hfee
  | StopLossDecrease => exact hfee
  | Liquidation => exact .lift _

theorem createOrder_settled {account : Address} {params : CreateOrderParams}
    (hdistinct : deployment.Distinct) (hkeys : RequestKeys w.dataStore)
    (h : createOrder env deployment.orderVault account params w = .ok (key, w')) :
    Settled deployment .order (.request (NonceUtils.getCurrentNonce w.dataStore + 1)) w w' := by
  obtain ⟨amount, fee, w₁, -, hrecord, rfl⟩ := createOrder_eq_ok h
  obtain ⟨hstore, received, hflow, howed⟩ := recordOrderAmounts_flow hrecord env account
  refine World.withRequest_settled .order hkeys hstore hflow howed ?_
  intro kind' hne
  exact recordOrderAmounts_guards (hdistinct _ _ hne.symm) params hrecord

/-- A stored order is taken out of the store and nothing else. -/
theorem removeOrder_drops {account : Address} (hkeys : RequestKeys w.dataStore)
    (h : removeOrder key account w = .ok (u, w')) :
    Drops .order key w w' ∧ ∀ vault, w'.vaultBalance vault = w.vaultBalance vault := by
  obtain ⟨_, hremove, rfl⟩ := removeOrder_eq_ok h
  exact ⟨Drops.of_remove .order hkeys hremove, fun _ => rfl⟩

theorem cancelOrder_settled {keeper : Address} (hdistinct : deployment.Distinct)
    (hkeys : RequestKeys w.dataStore)
    (h : cancelOrder env deployment.orderVault key keeper w = .ok (u, w')) :
    Settled deployment .order key w w' := by
  obtain ⟨-, w₁, w₂, htransfer, hremove, hfee⟩ := cancelOrder_eq_ok h
  let order := OrderStoreUtils.get w.dataStore key
  have hpaid : Flow (w.vaultBalance deployment.orderVault) 0 (collateralEscrow order)
      (w₁.vaultBalance deployment.orderVault) := by
    unfold collateralEscrow
    split at htransfer
    case isTrue hholds =>
      rw [if_pos hholds.1]
      exact StrictBank.transferOutUnwrapping_flow htransfer
    case isFalse =>
      obtain ⟨-, rfl⟩ := Tx.pure_eq_ok.mp htransfer
      exact (Flow.refl _).mono (fun _ => Nat.le_refl _) fun _ => Nat.zero_le _
  have hstore₁ : w₁.dataStore = w.dataStore := World.SameOff.dataStore_eq (Writes.ite
    (StrictBank.transferOutUnwrapping_writes env (List.mem_singleton_self _) _ _ _ _ _) (.pure _)
    htransfer)
  have hsame₁ := SameRequests.of_dataStore_eq hstore₁
  obtain ⟨hdrops, hbalance⟩ := removeOrder_drops (hsame₁.requestKeys hkeys) hremove
  have hstore₃ : w'.dataStore = w₂.dataStore := World.SameOff.dataStore_eq
    (GasUtils.payExecutionFee_writes env (List.mem_singleton_self _) _ _ _ _ hfee)
  have hdropped : Drops .order key w w' :=
    (hdrops.trans_same (.of_dataStore_eq hstore₃)).after_same hsame₁
  have hpaidFee := GasUtils.payExecutionFee_flow hfee
  rw [hdrops.wnt, hstore₁, hbalance] at hpaidFee
  refine hdropped.settled hkeys (hpaid.trans hpaidFee) (fun _ => Nat.le_refl _) ?_
  intro kind' hne
  have hbank := hdistinct _ _ hne.symm
  have h₁ : Guarded (kind'.vault deployment) w w₁ := Guards.ite
    (StrictBank.transferOutUnwrapping_guards hbank _ _ _ _) (.pure _) htransfer
  have h₃ := GasUtils.payExecutionFee_guards hbank _ _ _ hfee
  unfold Guarded at h₃
  rw [hbalance] at h₃
  exact h₁.then_raised h₃

theorem freezeOrder_settled {keeper : Address} (hdistinct : deployment.Distinct)
    (hkeys : RequestKeys w.dataStore)
    (h : freezeOrder env deployment.orderVault key keeper w = .ok (u, w')) :
    Settled deployment .order key w w' := by
  obtain ⟨haccount, hfee⟩ := freezeOrder_eq_ok h
  let order := OrderStoreUtils.get w.dataStore key
  let frozen : Order := { order with executionFee := 0, isFrozen := true }
  let w₁ : World := { w with dataStore := orderStore.set w.dataStore key frozen }
  have hmem : key ∈ orderStore.keys w.dataStore := by
    by_contra hmem
    exact haccount (congrArg Order.account (orderStore.get_of_not_mem hmem))
  have hsets : Sets .order key frozen w w₁ := Sets.of_set .order fun kind' hne hmem' =>
    hne (hkeys.disjoint kind' .order key hmem' hmem)
  have hfee : GasUtils.payExecutionFee env deployment.orderVault order.executionFee keeper
      order.account w₁ = .ok ((), w') := hfee
  have hstore : w'.dataStore = w₁.dataStore := World.SameOff.dataStore_eq
    (GasUtils.payExecutionFee_writes env (List.mem_singleton_self _) _ _ _ _ hfee)
  have hset := hsets.trans_same (SameRequests.of_dataStore_eq hstore).same
  have hnonce : NonceUtils.getCurrentNonce w'.dataStore =
      NonceUtils.getCurrentNonce w.dataStore := by
    rw [hstore]
    exact (orderStore.set_agreeAt fun f => by simp).uint
  have hpaid := GasUtils.payExecutionFee_flow hfee
  rw [show TokenUtils.wnt w₁.dataStore = _ from hsets.wnt] at hpaid
  have hescrow : ∀ t, orderEscrow (TokenUtils.wnt w.dataStore) frozen t +
      tokenAmount (TokenUtils.wnt w.dataStore) order.executionFee t =
        orderEscrow (TokenUtils.wnt w.dataStore) order t := by
    intro t
    show collateralEscrow order t + tokenAmount _ 0 t + _ = collateralEscrow order t + _
    rw [tokenAmount_zero]
    rfl
  refine hset.settled (Or.inl ⟨hmem, hnonce⟩) hpaid ?_ ?_ ?_
  · exact fun t => ((hescrow t).symm ▸ Nat.le_add_right _ _ : _ ≤ orderEscrow _ order t)
  · exact fun t => Or.inl (hescrow t).le
  · intro kind' hne
    show Guarded _ w₁ w'
    exact GasUtils.payExecutionFee_guards (hdistinct _ _ hne.symm) _ _ _ hfee

/-- Collateral and fee of an executed order are paid out of the vault. -/
theorem executeOrder_settled {params : ExecuteOrderParams} (hdistinct : deployment.Distinct)
    (hkeys : RequestKeys w.dataStore)
    (horder : params.order = OrderStoreUtils.get w.dataStore params.key)
    (hvault : params.orderVault = deployment.orderVault)
    (haway : ∀ kind : RequestKind, params.Away (kind.vault deployment))
    (h : executeOrder env params w = .ok (u, w')) : Settled deployment .order params.key w w' := by
  obtain ⟨-, w₁, w₂, hremove, hprocess, hfee⟩ := executeOrder_eq_ok h
  obtain ⟨hdrops, -⟩ := removeOrder_drops hkeys hremove
  have hprocessed : SameRequests w₁ w₂ := .of_sameOff (hdrops.requestKeys hkeys)
    (processOrder_writes env (List.Subset.refl processSlots) params hprocess) (by decide)
  have hstore : w'.dataStore = w₂.dataStore := World.SameOff.dataStore_eq
    (GasUtils.payExecutionFee_writes env (List.mem_singleton_self _) _ _ _ _ hfee)
  have hdropped : Drops .order params.key w w' :=
    (hdrops.trans_same hprocessed).trans_same (.of_dataStore_eq hstore)
  have hflow := executeOrder_flow (hkeys.slot hdrops.mem) (haway .order) hvault h
  refine hdropped.settled hkeys hflow ?_ ?_
  · intro t
    rw [horder]
    exact Nat.le_refl _
  · intro kind' hne
    refine executeOrder_guards (haway kind') ?_ h
    rw [hvault]
    exact hdistinct _ _ hne.symm

end OrderUtils

/-- Updating an order tops up its fee with what has arrived. -/
theorem OrderHandler.updateOrder_settled
    {sizeDeltaUsd acceptablePrice triggerPrice minOutputAmount : Nat}
    (hdistinct : deployment.Distinct) (hkeys : RequestKeys w.dataStore)
    (h : updateOrder env deployment key sizeDeltaUsd acceptablePrice triggerPrice minOutputAmount
      (OrderStoreUtils.get w.dataStore key) w = .ok (u, w')) :
    Settled deployment .order key w w' := by
  obtain ⟨-, haccount, -, receivedWnt, w₁, hrecord, rfl⟩ := updateOrder_eq_ok h
  let order := OrderStoreUtils.get w.dataStore key
  have hmem : key ∈ orderStore.keys w.dataStore := by
    by_contra hmem
    exact haccount (congrArg Order.account (orderStore.get_of_not_mem hmem))
  have hstore := StrictBank.recordTransferIn_dataStore hrecord
  have hsame := SameRequests.of_dataStore_eq hstore
  have hflow := StrictBank.recordTransferIn_flow hrecord
  let updated : Order :=
    { order with
      sizeDeltaUsd, triggerPrice, acceptablePrice, minOutputAmount
      isFrozen := false
      executionFee := order.executionFee + receivedWnt
      updatedAtBlock := env.blockNumber }
  have hset : Sets .order key updated w₁
      { w₁ with dataStore := orderStore.set w₁.dataStore key updated } := by
    refine Sets.of_set _ fun kind' hne hmem' => hne ?_
    refine (hsame.requestKeys hkeys).disjoint kind' .order key hmem' ?_
    rw [(hsame.same .order).keys]
    exact hmem
  have hsets := hset.after_same hsame.same
  refine hsets.settled (Or.inl ⟨hmem, ?_⟩) hflow ?_ (fun _ => Or.inr rfl) ?_
  · show NonceUtils.getCurrentNonce (orderStore.set w₁.dataStore key _) = _
    rw [hstore]
    exact (orderStore.set_agreeAt fun f => by simp).uint
  · intro t
    show collateralEscrow order t +
        tokenAmount (TokenUtils.wnt w.dataStore) (order.executionFee + receivedWnt) t ≤
      collateralEscrow order t + tokenAmount (TokenUtils.wnt w.dataStore) order.executionFee t +
        tokenAmount (TokenUtils.wnt w.dataStore) receivedWnt t
    unfold tokenAmount
    split_ifs <;> omega
  · intro kind' hne
    show Guarded _ w w₁
    exact StrictBank.recordTransferIn_guards (hdistinct .order kind' hne.symm) _ hrecord

-- ---------------------------------------------------------------------------
-- Deposits
-- ---------------------------------------------------------------------------

namespace DepositUtils

/-- A new deposit is owed what has arrived for it. -/
theorem recordDepositAmounts_flow {params : CreateDepositParams} {long short fee : Nat}
    (h : recordDepositAmounts vault params w = .ok ((long, short, fee), w')) (env : Env)
    (account marketToken : Address) :
    w'.dataStore = w.dataStore ∧ ∃ received,
      Flow (w.vaultBalance vault) received 0 (w'.vaultBalance vault) ∧
      ∀ t, depositEscrow (TokenUtils.wnt w.dataStore)
        (makeDeposit env account marketToken params long short fee) t ≤ received t := by
  unfold recordDepositAmounts at h
  obtain ⟨longAmount, w₁, hlong, h⟩ := Tx.bind_eq_ok.mp h
  obtain ⟨shortAmount, w₂, hshort, h⟩ := Tx.bind_eq_ok.mp h
  simp only [↓readStore_bind_eq_ok] at h
  have hstore : w₂.dataStore = w.dataStore :=
    (StrictBank.recordTransferIn_dataStore hshort).trans
      (StrictBank.recordTransferIn_dataStore hlong)
  have hflow := (StrictBank.recordTransferIn_flow hlong).trans
    (StrictBank.recordTransferIn_flow hshort)
  rw [hstore] at h
  have hescrow : ∀ t, depositEscrow (TokenUtils.wnt w.dataStore)
      (makeDeposit env account marketToken params long short fee) t =
        tokenAmount params.initialLongToken long t + tokenAmount params.initialShortToken short t +
          tokenAmount (TokenUtils.wnt w.dataStore) fee t := fun _ => rfl
  simp only [hescrow]
  split at h
  case isTrue hwnt =>
    simp only [↓Tx.lift_bind_eq_ok, sub_eq_ok, Tx.pure_eq_ok, Prod.mk.injEq] at h
    obtain ⟨_, ⟨hle, rfl⟩, ⟨rfl, rfl, rfl⟩, rfl⟩ := h
    refine ⟨hstore, _, hflow, fun t => ?_⟩
    rw [← hwnt]
    simp only [Pi.add_apply, tokenAmount]
    split_ifs <;> omega
  case isFalse =>
    split at h
    case isTrue hwnt =>
      simp only [↓Tx.lift_bind_eq_ok, sub_eq_ok, Tx.pure_eq_ok, Prod.mk.injEq] at h
      obtain ⟨_, ⟨hle, rfl⟩, ⟨rfl, rfl, rfl⟩, rfl⟩ := h
      refine ⟨hstore, _, hflow, fun t => ?_⟩
      rw [← hwnt]
      simp only [Pi.add_apply, tokenAmount]
      split_ifs <;> omega
    case isFalse =>
      obtain ⟨wntAmount, w₃, hrecord, h⟩ := Tx.bind_eq_ok.mp h
      simp only [↓Tx.lift_bind_eq_ok, Tx.pure_eq_ok, Prod.mk.injEq] at h
      obtain ⟨_, -, ⟨rfl, rfl, rfl⟩, rfl⟩ := h
      have hfee := StrictBank.recordTransferIn_flow hrecord
      refine ⟨(StrictBank.recordTransferIn_dataStore hrecord).trans hstore, _,
        hflow.trans hfee, fun _ => Nat.le_refl _⟩

/-- What comes in at another bank is recorded there. -/
theorem recordDepositAmounts_guards {bank : Address} (hbank : bank ≠ vault)
    (params : CreateDepositParams) : Guards vault (recordDepositAmounts bank params) := by
  have hrecord (token : Address) : Guards vault (StrictBank.recordTransferIn bank token) :=
    StrictBank.recordTransferIn_guards hbank token
  unfold recordDepositAmounts
  refine (hrecord _).bind fun _ => (hrecord _).bind fun _ => (Guards.readStore _).bind fun wnt => ?_
  refine .ite ?_ (.ite ?_ ?_)
  · exact (Guards.lift _).bind fun _ => .pure _
  · exact (Guards.lift _).bind fun _ => .pure _
  · exact (hrecord wnt).bind fun _ => (Guards.lift _).bind fun _ => .pure _

theorem createDeposit_settled {account : Address} {params : CreateDepositParams}
    (hdistinct : deployment.Distinct) (hkeys : RequestKeys w.dataStore)
    (h : createDeposit env deployment.depositVault account params w = .ok (key, w')) :
    Settled deployment .deposit (.request (NonceUtils.getCurrentNonce w.dataStore + 1)) w w' := by
  obtain ⟨long, short, fee, marketToken, w₁, -, hrecord, rfl⟩ := createDeposit_eq_ok h
  obtain ⟨hstore, received, hflow, howed⟩ :=
    recordDepositAmounts_flow hrecord env account marketToken
  refine World.withRequest_settled .deposit hkeys hstore hflow howed ?_
  intro kind' hne
  exact recordDepositAmounts_guards (hdistinct _ _ hne.symm) params hrecord

theorem removeDeposit_drops {account : Address} (hkeys : RequestKeys w.dataStore)
    (h : removeDeposit key account w = .ok (u, w')) :
    Drops .deposit key w w' ∧ ∀ vault, w'.vaultBalance vault = w.vaultBalance vault := by
  obtain ⟨_, hremove, rfl⟩ := removeDeposit_eq_ok h
  exact ⟨Drops.of_remove .deposit hkeys hremove, fun _ => rfl⟩

end DepositUtils

/-- A transfer of an amount that may be zero. -/
theorem StrictBank.transferPositive_flow {token receiver : Address} {amount : Nat}
    {shouldUnwrapNativeToken : Bool}
    (h : (if amount > 0 then
        transferOutUnwrapping env vault token receiver amount shouldUnwrapNativeToken
      else pure ()) w = .ok (u, w')) :
    w'.dataStore = w.dataStore ∧
      Flow (w.vaultBalance vault) 0 (tokenAmount token amount) (w'.vaultBalance vault) := by
  refine ⟨World.SameOff.dataStore_eq (Writes.ite
    (transferOutUnwrapping_writes env (List.mem_singleton_self _) _ _ _ _ _) (.pure _) h), ?_⟩
  split at h
  · exact transferOutUnwrapping_flow h
  · obtain ⟨-, rfl⟩ := Tx.pure_eq_ok.mp h
    exact (Flow.refl _).mono (fun _ => Nat.le_refl _) fun _ => Nat.zero_le _

theorem StrictBank.transferPositive_guards {bank : Address} (hbank : bank ≠ vault)
    (token receiver : Address) (amount : Nat) (shouldUnwrapNativeToken : Bool) :
    Guards vault (if amount > 0 then
        transferOutUnwrapping env bank token receiver amount shouldUnwrapNativeToken
      else pure ()) :=
  .ite (transferOutUnwrapping_guards hbank _ _ _ _) (.pure _)

theorem DepositUtils.cancelDeposit_settled {keeper : Address} (hdistinct : deployment.Distinct)
    (hkeys : RequestKeys w.dataStore)
    (h : cancelDeposit env deployment.depositVault key keeper w = .ok (u, w')) :
    Settled deployment .deposit key w w' := by
  obtain ⟨w₁, w₂, w₃, hremove, hlong, hshort, hfee⟩ := cancelDeposit_eq_ok h
  let deposit := DepositStoreUtils.get w.dataStore key
  obtain ⟨hdrops, hbalance⟩ := removeDeposit_drops hkeys hremove
  obtain ⟨hstore₂, hlongPaid⟩ := StrictBank.transferPositive_flow hlong
  obtain ⟨hstore₃, hshortPaid⟩ := StrictBank.transferPositive_flow hshort
  have hstore₄ : w'.dataStore = w₃.dataStore := World.SameOff.dataStore_eq
    (GasUtils.payExecutionFee_writes env (List.mem_singleton_self _) _ _ _ _ hfee)
  have hfeePaid := GasUtils.payExecutionFee_flow hfee
  rw [hstore₃, hstore₂, hdrops.wnt] at hfeePaid
  rw [hbalance] at hlongPaid
  have hdropped : Drops .deposit key w w' := hdrops.trans_same
    (.of_dataStore_eq (hstore₄.trans (hstore₃.trans hstore₂)))
  refine hdropped.settled hkeys ((hlongPaid.trans hshortPaid).trans hfeePaid)
    (fun _ => Nat.le_refl _) ?_
  intro kind' hne
  have hbank := hdistinct _ _ hne.symm
  have h₂ := StrictBank.transferPositive_guards hbank _ _ _ _ hlong
  have h₃ := StrictBank.transferPositive_guards hbank _ _ _ _ hshort
  have h₄ := GasUtils.payExecutionFee_guards hbank _ _ _ hfee
  have hall := trans_of (Guarded (kind'.vault deployment))
    (trans_of (Guarded (kind'.vault deployment)) h₂ h₃) h₄
  unfold Guarded at hall ⊢
  rwa [hbalance] at hall

/-- No vault is a market. -/
def Deployment.NoMarkets (deployment : Deployment) (dataStore : DataStore) : Prop :=
  ∀ kind : RequestKind, NoMarket (kind.vault deployment) dataStore

/-- The two amounts and the fee of an executed deposit are paid out of the vault. -/
theorem ExecuteDepositUtils.executeDeposit_settled {params : ExecuteDepositParams}
    (hdistinct : deployment.Distinct) (hkeys : RequestKeys w.dataStore)
    (hnone : deployment.NoMarkets w.dataStore)
    (hvault : params.depositVault = deployment.depositVault)
    (h : executeDeposit env params w = .ok (u, w')) :
    Settled deployment .deposit params.key w w' := by
  obtain ⟨market, prices, longAmount, shortAmount, mintAmount, w₁, w₂, w₃, w₄, hremove, -, -,
    hlong, hshort, -, hamounts, hfee⟩ := executeDeposit_eq_ok h
  let deposit := DepositStoreUtils.get w.dataStore params.key
  obtain ⟨hdrops, hbalance⟩ := DepositUtils.removeDeposit_drops hkeys hremove
  have hall : swapSlots ⊆ swapSlots := List.Subset.refl _
  have hsame₂ := swap_writes env hall _ _ _ _ _ _ _ hlong
  have hsame₃ := swap_writes env hall _ _ _ _ _ _ _ hshort
  have hsame₄ := depositAmounts_writes env hall _ _ _ _ _ hamounts
  have hsame := (hsame₂.trans hsame₃).trans hsame₄
  have hstore₅ : w'.dataStore = w₄.dataStore := World.SameOff.dataStore_eq
    (GasUtils.payExecutionFee_writes env (List.mem_singleton_self _) _ _ _ _ hfee)
  have hdropped : Drops .deposit params.key w w' := (hdrops.trans_same
    (.of_sameOff (hdrops.requestKeys hkeys) hsame (by decide))).trans_same
      (.of_dataStore_eq hstore₅)
  -- the markets are those of the start at each of the two swaps
  have hremoved : World.SameOff ([.position, .request] ++ depositStore.listSlots) w w₁ :=
    depositStore.remove_writes_tx (List.mem_append_left _ params.key.slot_mem)
      (List.subset_append_right _ _) hremove
  have hnone₁ : deployment.NoMarkets w₁.dataStore :=
    fun kind => (hnone kind).of_sameOff hremoved (by decide) (by decide)
  have hnone₂ : deployment.NoMarkets w₂.dataStore :=
    fun kind => (hnone₁ kind).of_sameOff hsame₂ (by decide) (by decide)
  have hwnt : TokenUtils.wnt w₄.dataStore = TokenUtils.wnt w.dataStore := by
    rw [← hdropped.wnt, hstore₅]
  have hlongPaid := swap_flow (hnone₁ .deposit) hvault hlong
  have hshortPaid := swap_flow (hnone₂ .deposit) hvault hshort
  have hdeposited : Guarded deployment.depositVault w₃ w₄ :=
    depositAmounts_guards _ _ _ _ _ hamounts
  rw [hvault] at hfee
  have hfeePaid := GasUtils.payExecutionFee_flow hfee
  rw [hwnt] at hfeePaid
  change Flow (w₁.vaultBalance deployment.depositVault) _ _ _ at hlongPaid
  rw [hbalance] at hlongPaid
  refine hdropped.settled hkeys
    (((hlongPaid.trans hshortPaid).then_raised hdeposited).trans hfeePaid)
    (fun _ => Nat.le_refl _) ?_
  intro kind' hne
  have hbank : deployment.depositVault ≠ kind'.vault deployment := hdistinct .deposit kind' hne.symm
  have h₂ := swap_guarded (hnone₁ kind') (by rw [hvault]; exact hbank) hlong
  have h₃ := swap_guarded (hnone₂ kind') (by rw [hvault]; exact hbank) hshort
  have h₄ : Guarded (kind'.vault deployment) _ _ := depositAmounts_guards _ _ _ _ _ hamounts
  have h₅ := GasUtils.payExecutionFee_guards hbank _ _ _ hfee
  have hguarded := trans_of (Guarded (kind'.vault deployment))
    (trans_of (Guarded (kind'.vault deployment))
      (trans_of (Guarded (kind'.vault deployment)) h₂ h₃) h₄) h₅
  unfold Guarded at hguarded ⊢
  rwa [hbalance] at hguarded

-- ---------------------------------------------------------------------------
-- Withdrawals
-- ---------------------------------------------------------------------------

namespace WithdrawalUtils

theorem createWithdrawal_settled {account : Address} {params : CreateWithdrawalParams}
    (hdistinct : deployment.Distinct) (hkeys : RequestKeys w.dataStore)
    (h : createWithdrawal env deployment.withdrawalVault account params w = .ok (key, w')) :
    Settled deployment .withdrawal (.request (NonceUtils.getCurrentNonce w.dataStore + 1)) w
      w' := by
  obtain ⟨wntAmount, marketTokenAmount, w₁, w₂, -, hwnt, hmarket, rfl⟩ :=
    createWithdrawal_eq_ok h
  have hstore : w₂.dataStore = w.dataStore :=
    (StrictBank.recordTransferIn_dataStore hmarket).trans
      (StrictBank.recordTransferIn_dataStore hwnt)
  have hflow := (StrictBank.recordTransferIn_flow hwnt).trans
    (StrictBank.recordTransferIn_flow hmarket)
  refine World.withRequest_settled .withdrawal hkeys hstore hflow ?_ ?_
  · intro t
    show tokenAmount params.market marketTokenAmount t +
      tokenAmount (TokenUtils.wnt w.dataStore) wntAmount t ≤ _
    rw [Pi.add_apply]
    omega
  · intro kind' hne
    have hbank := hdistinct .withdrawal kind' hne.symm
    exact trans_of (Guarded (kind'.vault deployment))
      (StrictBank.recordTransferIn_guards hbank _ hwnt)
      (StrictBank.recordTransferIn_guards hbank _ hmarket)

theorem removeWithdrawal_drops {account : Address} (hkeys : RequestKeys w.dataStore)
    (h : removeWithdrawal key account w = .ok (u, w')) :
    Drops .withdrawal key w w' ∧ ∀ vault, w'.vaultBalance vault = w.vaultBalance vault := by
  obtain ⟨_, hremove, rfl⟩ := removeWithdrawal_eq_ok h
  exact ⟨Drops.of_remove .withdrawal hkeys hremove, fun _ => rfl⟩

theorem cancelWithdrawal_settled {keeper : Address} (hdistinct : deployment.Distinct)
    (hkeys : RequestKeys w.dataStore)
    (h : cancelWithdrawal env deployment.withdrawalVault key keeper w = .ok (u, w')) :
    Settled deployment .withdrawal key w w' := by
  obtain ⟨w₁, w₂, hremove, htransfer, hfee⟩ := cancelWithdrawal_eq_ok h
  obtain ⟨hdrops, hbalance⟩ := removeWithdrawal_drops hkeys hremove
  have hstore₂ : w₂.dataStore = w₁.dataStore := World.SameOff.dataStore_eq
    (StrictBank.transferOutUnwrapping_writes env (List.mem_singleton_self _) _ _ _ _ _ htransfer)
  have hstore₃ : w'.dataStore = w₂.dataStore := World.SameOff.dataStore_eq
    (GasUtils.payExecutionFee_writes env (List.mem_singleton_self _) _ _ _ _ hfee)
  have hdropped : Drops .withdrawal key w w' :=
    hdrops.trans_same (.of_dataStore_eq (hstore₃.trans hstore₂))
  have hpaid := StrictBank.transferOutUnwrapping_flow htransfer
  have hfeePaid := GasUtils.payExecutionFee_flow hfee
  rw [hstore₂, hdrops.wnt] at hfeePaid
  rw [hbalance] at hpaid
  refine hdropped.settled hkeys (hpaid.trans hfeePaid) (fun _ => Nat.le_refl _) ?_
  intro kind' hne
  have hbank := hdistinct .withdrawal kind' hne.symm
  have hguarded := trans_of (Guarded (kind'.vault deployment))
    (StrictBank.transferOutUnwrapping_guards hbank _ _ _ _ htransfer)
    (GasUtils.payExecutionFee_guards hbank _ _ _ hfee)
  unfold Guarded at hguarded ⊢
  rwa [hbalance] at hguarded

/-- The market tokens of an executed withdrawal are burned in the vault, which then records what it
holds, and the fee is paid out. -/
theorem executeWithdrawal_settled {params : ExecuteWithdrawalParams}
    (hdistinct : deployment.Distinct) (hkeys : RequestKeys w.dataStore)
    (hmarkets : MarketsKeyed w.dataStore) (hnone : deployment.NoMarkets w.dataStore)
    (hvault : params.withdrawalVault = deployment.withdrawalVault)
    (h : executeWithdrawal env params w = .ok (u, w')) :
    Settled deployment .withdrawal params.key w w' := by
  obtain ⟨w₁, w₂, hremove, hexecute, hfee⟩ := executeWithdrawal_eq_ok h
  let withdrawal := WithdrawalStoreUtils.get w.dataStore params.key
  obtain ⟨hdrops, hbalance⟩ := removeWithdrawal_drops hkeys hremove
  have hsame := _executeWithdrawal_writes env (List.Subset.refl swapSlots) _ _ hexecute
  have hstore : w'.dataStore = w₂.dataStore := World.SameOff.dataStore_eq
    (GasUtils.payExecutionFee_writes env (List.mem_singleton_self _) _ _ _ _ hfee)
  have hdropped : Drops .withdrawal params.key w w' := (hdrops.trans_same
    (.of_sameOff (hdrops.requestKeys hkeys) hsame (by decide))).trans_same
      (.of_dataStore_eq hstore)
  have hremoved : World.SameOff ([.position, .request] ++ withdrawalStore.listSlots) w w₁ :=
    withdrawalStore.remove_writes_tx (List.mem_append_left _ params.key.slot_mem)
      (List.subset_append_right _ _) hremove
  have hnone₁ : deployment.NoMarkets w₁.dataStore :=
    fun kind => (hnone kind).of_sameOff hremoved (by decide) (by decide)
  have hmarkets₁ : MarketsKeyed w₁.dataStore := hmarkets.of_market_eq
    (funext fun _ => MarketStoreUtils.get_sameOff hremoved (by decide) (by decide) _)
  have hwnt : TokenUtils.wnt w₂.dataStore = TokenUtils.wnt w.dataStore := by
    rw [← hdropped.wnt, hstore]
  rw [hvault] at hfee
  have hfeePaid := GasUtils.payExecutionFee_flow hfee
  rw [hwnt] at hfeePaid
  have hpaid : Flow (w.vaultBalance deployment.withdrawalVault) 0
      (tokenAmount withdrawal.market withdrawal.marketTokenAmount)
      (w₂.vaultBalance deployment.withdrawalVault) := by
    obtain ⟨market, balance, w₃, w₄, w₅, hmarket, hbefore, hburn, hsync, hafter⟩ :=
      _executeWithdrawal_burns (hnone₁ .withdrawal) hexecute
    have htoken : market.marketToken = withdrawal.market := by
      obtain ⟨rfl, henabled⟩ := MarketUtils.getEnabledMarket_eq_ok hmarket
      exact hmarkets₁ _ henabled
    rw [hvault, htoken] at hburn hsync
    have hburned := MarketToken.burn_flow hburn hsync
    change Flow (w₁.vaultBalance deployment.withdrawalVault) 0 0 _ at hbefore
    rw [hbalance] at hbefore
    exact (hbefore.trans hburned |>.mono (fun _ => Nat.zero_le _) fun _ =>
      (Nat.zero_add _).le).then_raised hafter
  refine hdropped.settled hkeys (hpaid.trans hfeePaid) (fun _ => Nat.le_refl _) ?_
  intro kind' hne
  have hbank : deployment.withdrawalVault ≠ kind'.vault deployment :=
    hdistinct .withdrawal kind' hne.symm
  obtain ⟨market, balance, w₃, w₄, w₅, hmarket, hbefore, hburn, hsync, hafter⟩ :=
    _executeWithdrawal_burns (hnone₁ kind') hexecute
  rw [hvault] at hburn hsync
  have hburned := MarketToken.burn_guards hbank _ _ hburn
  have hsynced := StrictBank.syncTokenBalance_guards hbank _ hsync
  have hfeeGuarded := GasUtils.payExecutionFee_guards hbank _ _ _ hfee
  have hguarded := trans_of (Guarded (kind'.vault deployment))
    (trans_of (Guarded (kind'.vault deployment)) (trans_of (Guarded (kind'.vault deployment))
      (trans_of (Guarded (kind'.vault deployment)) hbefore hburned) hsynced) hafter) hfeeGuarded
  unfold Guarded at hguarded ⊢
  rwa [hbalance] at hguarded

end WithdrawalUtils

end GmxSynthetics
