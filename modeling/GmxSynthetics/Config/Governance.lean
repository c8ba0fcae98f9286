import GmxSynthetics.Config.TimelockSafety

/-!
# Governance

`RoleStore.sol` from its construction on, with the timelock as one of its callers. Anybody may call
either contract, in any order; only holders of `ROLE_ADMIN` reach the roles directly.

* `RoleStore.Consistent` — what the three mappings of the store agree on;
* `governance_next` — the one call of the role store that a step makes, if it makes any;
* `Governed` — what can have happened to the roles while the timelock is the only admin;
* `roles_governed` — the roles are consistent, never without an admin, and, once they are handed
  to the timelock, change only after a delay or by the multisig.
-/

namespace GmxSynthetics

open Evm

-- ---------------------------------------------------------------------------
-- The role store
-- ---------------------------------------------------------------------------

/-- The functions of the role store that write. -/
inductive RoleCall where
  | grantRole (account : Bytes20) (roleKey : Bytes32)
  | revokeRole (account : Bytes20) (roleKey : Bytes32)
  deriving DecidableEq, Repr

namespace RoleStore

/-- The storage before the constructor runs. -/
def empty : RoleStore where
  roles := []
  roleMembers := fun _ => []
  roleCache := fun _ _ => false

/-- The constructor, called by the given account. -/
def construct (role : Role) (msgSender : Bytes20) : RoleStore :=
  empty._grantRole msgSender role.ROLE_ADMIN

variable {role : Role} {roleStore roleStore' : RoleStore} {msgSender account : Bytes20}
  {roleKey : Bytes32}

/-- The cache says who the members are, no list has duplicates, and every role with a member is
listed. -/
structure Consistent (roleStore : RoleStore) : Prop where
  cached : ∀ account roleKey,
    roleStore.hasRole account roleKey = true ↔ account ∈ roleStore.roleMembers roleKey
  members : ∀ roleKey, (roleStore.roleMembers roleKey).Nodup
  roles : roleStore.roles.Nodup
  listed : ∀ roleKey, roleStore.roleMembers roleKey ≠ [] → roleKey ∈ roleStore.roles

/-- A role store in which nobody has a role. -/
theorem empty_consistent : empty.Consistent where
  cached account roleKey := by simp [empty, hasRole]
  members _ := List.nodup_nil
  roles := List.nodup_nil
  listed _ h := absurd rfl h

-- Which accounts hold which role after a write.

/-- A grant adds one role of one account. -/
theorem hasRole_grantRole {account' : Bytes20} {roleKey' : Bytes32} :
    (roleStore._grantRole account roleKey).hasRole account' roleKey' = true ↔
      roleStore.hasRole account' roleKey' = true ∨ (account' = account ∧ roleKey' = roleKey) := by
  simp only [hasRole, _grantRole, Function.update_apply]
  by_cases haccount : account' = account
  · subst haccount
    by_cases hroleKey : roleKey' = roleKey
    · simp [hroleKey]
    · simp [hroleKey]
  · simp [haccount]

/-- A revocation removes the member, unless it is the last of a role that needs one. -/
theorem _revokeRole_eq_ok (h : roleStore._revokeRole role account roleKey = .ok roleStore') :
    (roleKey = role.ROLE_ADMIN ∨ roleKey = role.TIMELOCK_MULTISIG →
      EnumerableSet.remove (roleStore.roleMembers roleKey) account ≠ []) ∧
    roleStore' =
      { roleStore with
        roleMembers := Function.update roleStore.roleMembers roleKey
          (EnumerableSet.remove (roleStore.roleMembers roleKey) account)
        roleCache := Function.update roleStore.roleCache account
          (Function.update (roleStore.roleCache account) roleKey false) } := by
  unfold _revokeRole at h
  obtain ⟨_, hadmin, h⟩ := Result.bind_eq_ok.mp h
  obtain ⟨_, hmultisig, h⟩ := Result.bind_eq_ok.mp h
  have hadmin := Result.revertIf_eq_ok.mp hadmin
  have hmultisig := Result.revertIf_eq_ok.mp hmultisig
  refine ⟨?_, (Result.pure_eq_ok.mp h).symm⟩
  rintro (hkey | hkey) hnil
  · exact hadmin ⟨List.length_eq_zero_iff.mpr hnil, hkey⟩
  · exact hmultisig ⟨List.length_eq_zero_iff.mpr hnil, hkey⟩

/-- It takes away one role of one account. -/
theorem hasRole_revokeRole (h : roleStore._revokeRole role account roleKey = .ok roleStore')
    {account' : Bytes20} {roleKey' : Bytes32} :
    roleStore'.hasRole account' roleKey' = true ↔
      roleStore.hasRole account' roleKey' = true ∧ ¬(account' = account ∧ roleKey' = roleKey) := by
  obtain ⟨-, rfl⟩ := _revokeRole_eq_ok h
  simp only [hasRole, Function.update_apply]
  by_cases haccount : account' = account
  · subst haccount
    by_cases hroleKey : roleKey' = roleKey
    · simp [hroleKey]
    · simp [hroleKey]
  · simp [haccount]

/-- The cache and the lists agree after a grant. -/
theorem Consistent.grantRole (h : roleStore.Consistent) (account : Bytes20) (roleKey : Bytes32) :
    (roleStore._grantRole account roleKey).Consistent where
  cached account' roleKey' := by
    rw [hasRole_grantRole, h.cached]
    rcases eq_or_ne roleKey' roleKey with rfl | hother
    · simp [_grantRole, EnumerableSet.mem_add]
    · simp [_grantRole, hother]
  members roleKey' := by
    rcases eq_or_ne roleKey' roleKey with rfl | hother
    · simpa [_grantRole] using EnumerableSet.nodup_add (h.members roleKey') account
    · simpa [_grantRole, hother] using h.members roleKey'
  roles := EnumerableSet.nodup_add h.roles roleKey
  listed roleKey' hmembers := by
    show roleKey' ∈ EnumerableSet.add roleStore.roles roleKey
    rw [EnumerableSet.mem_add]
    rcases eq_or_ne roleKey' roleKey with rfl | hother
    · exact .inr rfl
    · left
      apply h.listed
      simpa [_grantRole, hother] using hmembers

/-- And after a revocation. -/
theorem Consistent.revokeRole (hstore : roleStore.Consistent)
    (h : roleStore._revokeRole role account roleKey = .ok roleStore') : roleStore'.Consistent := by
  have hhasRole := @hasRole_revokeRole role roleStore roleStore' account roleKey h
  obtain ⟨-, rfl⟩ := _revokeRole_eq_ok h
  refine ⟨?_, ?_, hstore.roles, ?_⟩
  · intro account' roleKey'
    rw [hhasRole, hstore.cached]
    rcases eq_or_ne roleKey' roleKey with rfl | hother
    · simp [EnumerableSet.mem_remove (hstore.members roleKey')]
    · simp [hother]
  · intro roleKey'
    rcases eq_or_ne roleKey' roleKey with rfl | hother
    · simpa using EnumerableSet.nodup_remove (hstore.members roleKey') account
    · simpa [hother] using hstore.members roleKey'
  · intro roleKey' hmembers
    apply hstore.listed
    rcases eq_or_ne roleKey' roleKey with rfl | hother
    · intro hnil
      apply hmembers
      simp [hnil, EnumerableSet.remove]
    · simpa [hother] using hmembers

end RoleStore

namespace RoleCall

variable {role : Role} {roleStore roleStore' : RoleStore} {msgSender : Bytes20} {c : RoleCall}

def run (role : Role) (msgSender : Bytes20) (roleStore : RoleStore) :
    RoleCall → Result RoleStore
  | grantRole account roleKey => roleStore.grantRole role msgSender account roleKey
  | revokeRole account roleKey => roleStore.revokeRole role msgSender account roleKey

/-- Only a holder of `ROLE_ADMIN` gets through. -/
theorem admin_of_run (h : c.run role msgSender roleStore = .ok roleStore') :
    roleStore.hasRole msgSender role.ROLE_ADMIN = true := by
  cases c with
  | grantRole account roleKey =>
    obtain ⟨_, hadmin, -⟩ := Result.bind_eq_ok.mp h
    simpa using Result.revertIf_eq_ok.mp hadmin
  | revokeRole account roleKey =>
    obtain ⟨_, hadmin, -⟩ := Result.bind_eq_ok.mp h
    simpa using Result.revertIf_eq_ok.mp hadmin

/-- A call that grants has done so. -/
theorem run_grantRole {account : Bytes20} {roleKey : Bytes32}
    (h : (grantRole account roleKey).run role msgSender roleStore = .ok roleStore') :
    roleStore' = roleStore._grantRole account roleKey := by
  obtain ⟨_, -, h⟩ := Result.bind_eq_ok.mp h
  exact (Result.pure_eq_ok.mp h).symm

/-- A call that revokes has done so. -/
theorem run_revokeRole {account : Bytes20} {roleKey : Bytes32}
    (h : (revokeRole account roleKey).run role msgSender roleStore = .ok roleStore') :
    roleStore._revokeRole role account roleKey = .ok roleStore' := by
  obtain ⟨_, -, h⟩ := Result.bind_eq_ok.mp h
  exact h

/-- The cache and the lists agree after every call. -/
theorem run_consistent (h : c.run role msgSender roleStore = .ok roleStore')
    (hstore : roleStore.Consistent) : roleStore'.Consistent := by
  cases c with
  | grantRole account roleKey =>
    rw [run_grantRole h]
    exact hstore.grantRole account roleKey
  | revokeRole account roleKey => exact hstore.revokeRole (run_revokeRole h)

/-- The admins and the multisig never lose their last member. -/
theorem run_members (h : c.run role msgSender roleStore = .ok roleStore') {roleKey : Bytes32}
    (hkey : roleKey = role.ROLE_ADMIN ∨ roleKey = role.TIMELOCK_MULTISIG)
    (hmembers : roleStore.roleMembers roleKey ≠ []) : roleStore'.roleMembers roleKey ≠ [] := by
  cases c with
  | grantRole account roleKey' =>
    rw [run_grantRole h]
    rcases eq_or_ne roleKey roleKey' with rfl | hother
    · obtain ⟨member, hmember⟩ := List.exists_mem_of_ne_nil _ hmembers
      apply List.ne_nil_of_mem (a := member)
      simp [RoleStore._grantRole, EnumerableSet.mem_add, hmember]
    · simpa [RoleStore._grantRole, hother] using hmembers
  | revokeRole account roleKey' =>
    obtain ⟨hnonempty, rfl⟩ := RoleStore._revokeRole_eq_ok (run_revokeRole h)
    rcases eq_or_ne roleKey roleKey' with rfl | hother
    · simpa using hnonempty hkey
    · simpa [hother] using hmembers

/-- A role that is new was granted. -/
theorem granted_of_run (h : c.run role msgSender roleStore = .ok roleStore') {account : Bytes20}
    {roleKey : Bytes32} (hafter : roleStore'.hasRole account roleKey = true) :
    roleStore.hasRole account roleKey = true ∨ c = grantRole account roleKey := by
  cases c with
  | grantRole account' roleKey' =>
    rw [run_grantRole h, RoleStore.hasRole_grantRole] at hafter
    rcases hafter with hbefore | ⟨rfl, rfl⟩
    · exact .inl hbefore
    · exact .inr rfl
  | revokeRole account' roleKey' =>
    exact .inl ((RoleStore.hasRole_revokeRole (run_revokeRole h)).mp hafter).1

/-- A role that is gone was revoked. -/
theorem revoked_of_run (h : c.run role msgSender roleStore = .ok roleStore') {account : Bytes20}
    {roleKey : Bytes32} (hbefore : roleStore.hasRole account roleKey = true) :
    roleStore'.hasRole account roleKey = true ∨ c = revokeRole account roleKey := by
  cases c with
  | grantRole account' roleKey' =>
    rw [run_grantRole h, RoleStore.hasRole_grantRole]
    exact .inl (.inl hbefore)
  | revokeRole account' roleKey' =>
    rw [RoleStore.hasRole_revokeRole (run_revokeRole h)]
    by_cases hsame : account = account' ∧ roleKey = roleKey'
    · obtain ⟨rfl, rfl⟩ := hsame
      exact .inr rfl
    · exact .inl ⟨hbefore, hsame⟩

end RoleCall

-- ---------------------------------------------------------------------------
-- The roles under the timelock
-- ---------------------------------------------------------------------------

namespace Timelock

variable {Hash : Type} {deployment : TimelockDeployment Hash} {msg : TimelockMsg}
  {timelock timelock' : Timelock Hash}

/-- The roles are as before. -/
def SameRoles (timelock timelock' : Timelock Hash) : Prop :=
  timelock'.roleStore = timelock.roleStore

instance : IsPreorder (Timelock Hash) SameRoles where
  refl _ := rfl
  trans _ _ _ h h' := h'.trans h

/-- Setting a value of the data store grants nothing. -/
theorem keepsRoles_setDataStore (f : DataStore → DataStore) :
    Tx.Keeps SameRoles (setDataStore deployment f) := by
  intro timelock _ timelock' h
  unfold setDataStore onlyController at h
  rw [Tx.view_bind_eq_ok] at h
  obtain ⟨_, -, h⟩ := h
  rw [← Tx.write_eq_ok.mp h]
  rfl

/-- Nor does changing the signers. -/
theorem keepsRoles_setSigners (f : List Bytes20 → List Bytes20) :
    Tx.Keeps SameRoles (setSigners deployment f) := by
  intro timelock _ timelock' h
  unfold setSigners onlyController at h
  rw [Tx.view_bind_eq_ok] at h
  obtain ⟨_, -, h⟩ := h
  rw [← Tx.write_eq_ok.mp h]
  rfl

/-- A call of the role store leaves what the role store returns. -/
theorem setRoleStore_eq_ok {f : RoleStore → Result RoleStore}
    (h : setRoleStore f timelock = .ok ((), timelock')) :
    f timelock.roleStore = .ok timelock'.roleStore := by
  unfold setRoleStore at h
  rw [Tx.view_bind_eq_ok] at h
  obtain ⟨roleStore, hroleStore, h⟩ := h
  rw [← Tx.write_eq_ok.mp h]
  exact hroleStore

variable [DecidableEq Hash]

/-- A pending action is no role. -/
theorem keepsRoles_setPendingAction (actionKey : Hash) (value : Nat) :
    Tx.Keeps SameRoles (setPendingAction actionKey value) := by
  intro timelock _ timelock' h
  rw [← Tx.write_eq_ok.mp h]
  rfl

/-- Nor is signalling it. -/
theorem keepsRoles_signalPendingAction (actionKey : Hash) :
    Tx.Keeps SameRoles (_signalPendingAction msg actionKey) := by
  refine Tx.keeps_bind (Tx.keeps_read _) fun _ => ?_
  refine Tx.keeps_bind (Tx.keeps_lift _) fun _ => ?_
  refine Tx.keeps_bind (Tx.keeps_read _) fun _ => ?_
  refine Tx.keeps_bind (Tx.keeps_lift _) fun _ => ?_
  exact keepsRoles_setPendingAction _ _

/-- Nor is clearing it. -/
theorem keepsRoles_clearAction (actionKey : Hash) :
    Tx.Keeps SameRoles (_clearAction actionKey) := by
  refine Tx.keeps_bind (Tx.keeps_read _) fun _ => ?_
  refine Tx.keeps_bind (Tx.keeps_lift _) fun _ => ?_
  exact keepsRoles_setPendingAction _ _

/-- Nor is checking its delay. -/
theorem keepsRoles_validateAndClearAction (actionKey : Hash) :
    Tx.Keeps SameRoles (_validateAndClearAction msg actionKey) := by
  refine Tx.keeps_bind ?_ fun _ => keepsRoles_clearAction _
  refine Tx.keeps_bind (Tx.keeps_read _) fun _ => ?_
  refine Tx.keeps_bind (Tx.keeps_lift _) fun _ => ?_
  exact Tx.keeps_lift _

/-- What follows the checks of an execution starts from the same roles. -/
theorem validateAndClear_sameRoles {actionKey : Hash} {tail : Unit → Call Hash Unit}
    (h : (_validateAndClearAction msg actionKey >>= tail) timelock = .ok ((), timelock')) :
    ∃ cleared, SameRoles timelock cleared ∧ tail () cleared = .ok ((), timelock') := by
  obtain ⟨_, cleared, hclear, htail⟩ := Tx.bind_eq_ok.mp h
  exact ⟨cleared, keepsRoles_validateAndClearAction _ hclear, htail⟩

end Timelock

namespace TimelockAction

variable {Hash : Type} [DecidableEq Hash] {deployment : TimelockDeployment Hash}
  {msg : TimelockMsg} {timelock timelock' : Timelock Hash}

/-- The call of the role store that an execution makes. -/
def roleCall : TimelockAction → Option RoleCall
  | grantRole account roleKey => some (.grantRole account roleKey)
  | revokeRole account roleKey => some (.revokeRole account roleKey)
  | _ => none

/-- Signalling an action changes no role. -/
theorem signal_sameRoles {action : TimelockAction}
    (h : action.signal deployment msg timelock = .ok ((), timelock')) :
    Timelock.SameRoles timelock timelock' := by
  cases action with
  | addOracleSigner account | removeOracleSigner account | setFeeReceiver account =>
    have h := Timelock.onlyTimelockAdmin_then h
    rw [Tx.lift_bind_eq_ok] at h
    obtain ⟨_, -, h⟩ := h
    exact Timelock.keepsRoles_signalPendingAction _ h
  | grantRole account roleKey | revokeRole account roleKey =>
    exact Timelock.keepsRoles_signalPendingAction _ (Timelock.onlyTimelockAdmin_then h)
  | setPriceFeed token priceFeed priceFeedMultiplier priceFeedHeartbeatDuration stablePrice =>
    exact Timelock.keepsRoles_signalPendingAction _ (Timelock.onlyTimelockAdmin_then h)

/-- An execution calls the role store as the timelock, or leaves it alone. -/
theorem execute_roles {action : TimelockAction}
    (h : action.execute deployment msg timelock = .ok ((), timelock')) :
    match action.roleCall with
    | some c => c.run deployment.role deployment.self timelock.roleStore =
        .ok timelock'.roleStore
    | none => Timelock.SameRoles timelock timelock' := by
  cases action with
  | addOracleSigner account | removeOracleSigner account =>
    obtain ⟨cleared, hcleared, h⟩ :=
      Timelock.validateAndClear_sameRoles (Timelock.onlyTimelockAdmin_then h)
    exact (Timelock.keepsRoles_setSigners _ h).trans hcleared
  | setFeeReceiver account =>
    obtain ⟨cleared, hcleared, h⟩ :=
      Timelock.validateAndClear_sameRoles (Timelock.onlyTimelockAdmin_then h)
    exact (Timelock.keepsRoles_setDataStore _ h).trans hcleared
  | grantRole account roleKey | revokeRole account roleKey =>
    obtain ⟨cleared, hcleared, h⟩ :=
      Timelock.validateAndClear_sameRoles (Timelock.onlyTimelockAdmin_then h)
    have h := Timelock.setRoleStore_eq_ok h
    rw [hcleared] at h
    exact h
  | setPriceFeed token priceFeed priceFeedMultiplier priceFeedHeartbeatDuration stablePrice =>
    obtain ⟨cleared, hcleared, h⟩ :=
      Timelock.validateAndClear_sameRoles (Timelock.onlyTimelockAdmin_then h)
    refine Eq.trans (Tx.keeps_bind (R := Timelock.SameRoles) ?_ (fun _ => ?_) h) hcleared
    · exact Timelock.keepsRoles_setDataStore _
    refine Tx.keeps_bind (Timelock.keepsRoles_setDataStore _) fun _ => ?_
    refine Tx.keeps_bind (Timelock.keepsRoles_setDataStore _) fun _ => ?_
    exact Timelock.keepsRoles_setDataStore _

end TimelockAction

-- ---------------------------------------------------------------------------
-- The machine
-- ---------------------------------------------------------------------------

/-- Somebody calls the timelock or the role store, or the contracts around them change. -/
inductive GovernanceStep (Hash : Type) where
  | timelock (msg : TimelockMsg) (call : TimelockCall Hash)
  | roleStore (msgSender : Bytes20) (call : RoleCall)
  | outside

namespace GovernanceStep

variable {Hash : Type}

/-- How the timelock sees the step. -/
def timelockStep : GovernanceStep Hash → TimelockStep Hash
  | timelock msg c => .call msg c
  | roleStore _ _ => .outside
  | outside => .outside

/-- The call of the role store that the step makes, with its caller. -/
def roleCall (self : Bytes20) : GovernanceStep Hash → Option (Bytes20 × RoleCall)
  | timelock _ (.revokeRole account roleKey) => some (self, .revokeRole account roleKey)
  | timelock _ (.execute action) => action.roleCall.map fun c => (self, c)
  | roleStore msgSender c => some (msgSender, c)
  | _ => none

end GovernanceStep

section

variable {Hash : Type} [DecidableEq Hash] (deployment : TimelockDeployment Hash)

/-- The runs of a role store and a timelock from their construction on. The timelock calls the
role store in its own functions only; nobody else writes the roles. -/
def governanceMachine (initialDelay : Nat) (deployer : Bytes20) :
    Machine (TimelockRun Hash) (GovernanceStep Hash) where
  init run := (timelockMachine deployment initialDelay).init run ∧
    run.timelock.roleStore = RoleStore.construct deployment.role deployer
  next step run run' :=
    (timelockMachine deployment initialDelay).next step.timelockStep run run' ∧
    match step with
    | .timelock _ _ => True
    | .roleStore msgSender c => msgSender ≠ deployment.self ∧
        c.run deployment.role msgSender run.timelock.roleStore = .ok run'.timelock.roleStore
    | .outside => Timelock.SameRoles run.timelock run'.timelock

variable {deployment} {initialDelay : Nat} {deployer : Bytes20} {run run' : TimelockRun Hash}
  {step : GovernanceStep Hash}

/-- The roles change by the call that the step makes, and by nothing else. -/
theorem governance_next (h : (governanceMachine deployment initialDelay deployer).next step run
    run') :
    match step.roleCall deployment.self with
    | some (msgSender, c) =>
      c.run deployment.role msgSender run.timelock.roleStore = .ok run'.timelock.roleStore
    | none => Timelock.SameRoles run.timelock run'.timelock := by
  obtain ⟨htimelock, hroles⟩ := h
  cases step with
  | roleStore msgSender c => exact hroles.2
  | outside => exact hroles
  | timelock msg c =>
    obtain ⟨-, hcall, -, -⟩ := htimelock
    cases c with
    | revokeRole account roleKey =>
      obtain ⟨_, _, hcall⟩ := Tx.view_bind_eq_ok.mp hcall
      exact Timelock.setRoleStore_eq_ok hcall
    | increaseTimelockDelay timelockDelay =>
      have hcall := Timelock.onlyTimelockAdmin_then hcall
      simp only [Tx.read_bind_eq_ok, Tx.lift_bind_eq_ok] at hcall
      obtain ⟨_, -, _, -, hcall⟩ := hcall
      show run'.timelock.roleStore = run.timelock.roleStore
      rw [← Tx.write_eq_ok.mp hcall]
    | signal action => exact TimelockAction.signal_sameRoles hcall
    | cancelAction actionKey =>
      exact Timelock.keepsRoles_clearAction _ (Timelock.onlyTimelockAdmin_then hcall)
    | execute action =>
      have hroles := TimelockAction.execute_roles hcall
      show match action.roleCall.map fun c => (deployment.self, c) with
        | some (msgSender, c) =>
          c.run deployment.role msgSender run.timelock.roleStore = .ok run'.timelock.roleStore
        | none => Timelock.SameRoles run.timelock run'.timelock
      cases hcall' : action.roleCall with
      | none => simpa [hcall'] using hroles
      | some c => simpa [hcall'] using hroles

/-- A property of the roles that every call of the role store keeps. -/
theorem roles_next {P : RoleStore → Prop}
    (hcall : ∀ msgSender (c : RoleCall) roleStore roleStore',
      c.run deployment.role msgSender roleStore = .ok roleStore' → P roleStore → P roleStore')
    (h : (governanceMachine deployment initialDelay deployer).next step run run')
    (hP : P run.timelock.roleStore) : P run'.timelock.roleStore := by
  have hnext := governance_next h
  split at hnext
  · exact hcall _ _ _ _ hnext hP
  · rw [show run'.timelock.roleStore = run.timelock.roleStore from hnext]
    exact hP

/-- In every run the cache and the lists agree. -/
theorem roles_consistent (h : (governanceMachine deployment initialDelay deployer).Reachable run) :
    run.timelock.roleStore.Consistent := by
  refine h.invariant (P := fun run => run.timelock.roleStore.Consistent) ?_ ?_
  · rintro run ⟨-, hroles⟩
    rw [hroles]
    exact RoleStore.empty_consistent.grantRole _ _
  · intro _ _ _ _ hnext
    exact roles_next (fun _ _ _ _ hrun => RoleCall.run_consistent hrun) hnext

/-- In every run there is an administrator. -/
theorem admins_nonempty (h : (governanceMachine deployment initialDelay deployer).Reachable run) :
    run.timelock.roleStore.roleMembers deployment.role.ROLE_ADMIN ≠ [] := by
  refine h.invariant
    (P := fun run => run.timelock.roleStore.roleMembers deployment.role.ROLE_ADMIN ≠ []) ?_ ?_
  · rintro run ⟨-, hroles⟩
    rw [hroles]
    simp [RoleStore.construct, RoleStore._grantRole, RoleStore.empty, EnumerableSet.add]
  · intro _ _ _ _ hnext
    exact roles_next (P := fun roleStore =>
      roleStore.roleMembers deployment.role.ROLE_ADMIN ≠ [])
      (fun _ _ _ _ hrun => RoleCall.run_members hrun (.inl rfl)) hnext

omit [DecidableEq Hash] in
/-- The roles are consistent, so what has a member is held by somebody. -/
theorem exists_hasRole {roleKey : Bytes32} (hroles : run.timelock.roleStore.Consistent) :
    run.timelock.roleStore.roleMembers roleKey ≠ [] ↔
      ∃ account, run.timelock.roleStore.hasRole account roleKey = true := by
  constructor
  · intro hmembers
    obtain ⟨account, haccount⟩ := List.exists_mem_of_ne_nil _ hmembers
    exact ⟨account, (hroles.cached account roleKey).mpr haccount⟩
  · rintro ⟨account, haccount⟩
    exact List.ne_nil_of_mem ((hroles.cached account roleKey).mp haccount)

/-- The timelock's own runs allow every step. -/
theorem timelock_simulates : (timelockMachine deployment initialDelay).Simulates
    (governanceMachine deployment initialDelay deployer) Eq where
  init run h := ⟨run, h.1, rfl⟩
  next step run run' _ hnext hrun := by
    subst hrun
    exact ⟨run', .single ⟨step.timelockStep, hnext.1⟩, rfl⟩

/-- In every run what is executed has been signalled. -/
theorem governance_recorded (hkeccak256 : Function.Injective deployment.keccak256)
    (h : (governanceMachine deployment initialDelay deployer).Reachable run) :
    TimelockSafety.Recorded deployment run := by
  obtain ⟨_, hrun, rfl⟩ := h.simulated timelock_simulates
  exact TimelockSafety.recorded_of_reachable hkeccak256 hrun

-- ---------------------------------------------------------------------------
-- Governed by the timelock
-- ---------------------------------------------------------------------------

/-- Since the history was that of `start`, the action has been executed, on a signal that waited
as long as the delay in force when it was made. -/
def ExecutedSince (deployment : TimelockDeployment Hash) (start run : TimelockRun Hash)
    (action : TimelockAction) : Prop :=
  ∃ i j signalled executed, start.events.length ≤ i ∧
    TimelockSafety.Consumes deployment run.events action j i signalled executed

/-- Since then the multisig has revoked the role through the timelock. -/
def RevokedSince (start run : TimelockRun Hash) (account : Bytes20) (roleKey : Bytes32) : Prop :=
  ∃ event ∈ run.events.drop start.events.length, event.call = .revokeRole account roleKey

/-- The timelock is the only admin, and every role that changed hands since `start` did so by an
action that had waited, or was revoked by the multisig. -/
structure Governed (deployment : TimelockDeployment Hash) (start run : TimelockRun Hash) :
    Prop where
  onlyAdmin : ∀ account,
    run.timelock.roleStore.hasRole account deployment.role.ROLE_ADMIN = true →
      account = deployment.self
  granted : ∀ account roleKey, run.timelock.roleStore.hasRole account roleKey = true →
    start.timelock.roleStore.hasRole account roleKey = true ∨
      ExecutedSince deployment start run (.grantRole account roleKey)
  revoked : ∀ account roleKey, start.timelock.roleStore.hasRole account roleKey = true →
    run.timelock.roleStore.hasRole account roleKey = true ∨
      ExecutedSince deployment start run (.revokeRole account roleKey) ∨
      RevokedSince start run account roleKey

variable {start : TimelockRun Hash}

/-- The history only grows. -/
theorem events_next (h : (governanceMachine deployment initialDelay deployer).next step run run') :
    run'.events = run.events ∨ ∃ event, run'.events = run.events ++ [event] := by
  obtain ⟨htimelock, -⟩ := h
  cases step with
  | timelock msg c => exact .inr ⟨_, htimelock.2.2.1⟩
  | roleStore msgSender c => exact .inl htimelock.2.1
  | outside => exact .inl htimelock.2.1

/-- What has been executed stays so. -/
theorem ExecutedSince.next {action : TimelockAction}
    (h : ExecutedSince deployment start run action)
    (hnext : (governanceMachine deployment initialDelay deployer).next step run run') :
    ExecutedSince deployment start run' action := by
  obtain ⟨i, j, signalled, executed, hi, hconsumes⟩ := h
  refine ⟨i, j, signalled, executed, hi, ?_⟩
  rcases events_next hnext with hevents | ⟨event, hevents⟩
  · rw [hevents]
    exact hconsumes
  · rw [hevents]
    exact hconsumes.append

/-- What has been revoked stays so. -/
theorem RevokedSince.next {account : Bytes20} {roleKey : Bytes32}
    (h : RevokedSince start run account roleKey)
    (hnext : (governanceMachine deployment initialDelay deployer).next step run run') :
    RevokedSince start run' account roleKey := by
  obtain ⟨event, hevent, hcall⟩ := h
  refine ⟨event, ?_, hcall⟩
  rcases events_next hnext with hevents | ⟨last, hevents⟩
  · rw [hevents]
    exact hevent
  · rw [hevents, List.drop_append]
    exact List.mem_append_left _ hevent

/-- What the timelock asks of the role store, it does for an action that has waited or for the
multisig. -/
theorem timelock_roleCall (hrecorded : TimelockSafety.Recorded deployment run)
    (hkeccak256 : Function.Injective deployment.keccak256)
    (hlength : start.events.length ≤ run.events.length)
    (hnext : (governanceMachine deployment initialDelay deployer).next step run run')
    {c : RoleCall} (hcall : step.roleCall deployment.self = some (deployment.self, c)) :
    (∃ action, action.roleCall = some c ∧ ExecutedSince deployment start run' action) ∨
    ∃ account roleKey, c = .revokeRole account roleKey ∧
      RevokedSince start run' account roleKey := by
  cases step with
  | outside => cases hcall
  | roleStore msgSender c' =>
    -- The timelock makes no other calls than these.
    obtain ⟨-, hsender, -⟩ := hnext
    cases hcall
    exact absurd rfl hsender
  | timelock msg c' =>
    obtain ⟨⟨-, hrun, hevents, -⟩, -⟩ := hnext
    cases c' with
    | increaseTimelockDelay timelockDelay => cases hcall
    | signal action => cases hcall
    | cancelAction actionKey => cases hcall
    | revokeRole account roleKey =>
      cases hcall
      refine .inr ⟨account, roleKey, rfl, ⟨.revokeRole account roleKey, msg.timestamp,
        run.timelock.timelockDelay⟩, ?_, rfl⟩
      rw [hevents, List.drop_append_of_le_length hlength]
      exact List.mem_append_right _ (List.mem_singleton.mpr rfl)
    | execute action =>
      obtain ⟨c', hc', hpair⟩ := Option.map_eq_some_iff.mp hcall
      cases hpair
      obtain ⟨j, signalled, hconsumes⟩ := hrecorded.consumes hkeccak256 hrun
      rw [← hevents] at hconsumes
      exact .inl ⟨action, hc', run.events.length, j, signalled, _, hlength, hconsumes⟩

omit [DecidableEq Hash] in
/-- Only the action that grants a role grants it. -/
theorem roleCall_grantRole {action : TimelockAction} {account : Bytes20} {roleKey : Bytes32}
    (h : action.roleCall = some (.grantRole account roleKey)) :
    action = .grantRole account roleKey := by
  cases action <;> simp_all [TimelockAction.roleCall]

omit [DecidableEq Hash] in
/-- Only the action that revokes a role revokes it. -/
theorem roleCall_revokeRole {action : TimelockAction} {account : Bytes20} {roleKey : Bytes32}
    (h : action.roleCall = some (.revokeRole account roleKey)) :
    action = .revokeRole account roleKey := by
  cases action <;> simp_all [TimelockAction.roleCall]

/-- A step leaves the roles governed, unless it makes somebody else an admin, and then by an action
that has waited. -/
theorem Governed.next (hgoverned : Governed deployment start run)
    (hrecorded : TimelockSafety.Recorded deployment run)
    (hkeccak256 : Function.Injective deployment.keccak256)
    (hlength : start.events.length ≤ run.events.length)
    (hnext : (governanceMachine deployment initialDelay deployer).next step run run') :
    Governed deployment start run' ∨ ∃ account,
      ExecutedSince deployment start run' (.grantRole account deployment.role.ROLE_ADMIN) := by
  have hroles := governance_next hnext
  cases hcall : step.roleCall deployment.self with
  | none =>
    simp only [hcall] at hroles
    have hroles : run'.timelock.roleStore = run.timelock.roleStore := hroles
    left
    refine ⟨?_, ?_, ?_⟩
    · rw [hroles]
      exact hgoverned.onlyAdmin
    · intro account roleKey hafter
      rw [hroles] at hafter
      exact (hgoverned.granted account roleKey hafter).imp_right (·.next hnext)
    · intro account roleKey hbefore
      rw [hroles]
      exact (hgoverned.revoked account roleKey hbefore).imp_right
        (Or.imp (·.next hnext) (·.next hnext))
  | some calling =>
    obtain ⟨msgSender, c⟩ := calling
    simp only [hcall] at hroles
    obtain rfl : msgSender = deployment.self :=
      hgoverned.onlyAdmin msgSender (RoleCall.admin_of_run hroles)
    have hperformed := timelock_roleCall hrecorded hkeccak256 hlength hnext hcall
    have hgranted : ∀ account roleKey, c = .grantRole account roleKey →
        ExecutedSince deployment start run' (.grantRole account roleKey) := by
      rintro account roleKey rfl
      rcases hperformed with ⟨action, haction, hexecuted⟩ | ⟨_, _, hrevokes, -⟩
      · rwa [← roleCall_grantRole haction]
      · cases hrevokes
    have hrevoked : ∀ account roleKey, c = .revokeRole account roleKey →
        ExecutedSince deployment start run' (.revokeRole account roleKey) ∨
          RevokedSince start run' account roleKey := by
      rintro account roleKey rfl
      rcases hperformed with ⟨action, haction, hexecuted⟩ | ⟨_, _, hrevokes, hrevoked⟩
      · rw [roleCall_revokeRole haction] at hexecuted
        exact .inl hexecuted
      · cases hrevokes
        exact .inr hrevoked
    by_cases hadmin : ∃ account, c = .grantRole account deployment.role.ROLE_ADMIN
    · obtain ⟨account, haccount⟩ := hadmin
      exact .inr ⟨account, hgranted account _ haccount⟩
    · left
      refine ⟨?_, ?_, ?_⟩
      · intro account hafter
        rcases RoleCall.granted_of_run hroles hafter with hbefore | hgrant
        · exact hgoverned.onlyAdmin account hbefore
        · exact absurd ⟨account, hgrant⟩ hadmin
      · intro account roleKey hafter
        rcases RoleCall.granted_of_run hroles hafter with hbefore | hgrant
        · exact (hgoverned.granted account roleKey hbefore).imp_right (·.next hnext)
        · exact .inr (hgranted account roleKey hgrant)
      · intro account roleKey hstart
        rcases hgoverned.revoked account roleKey hstart with hbefore | hbefore
        · rcases RoleCall.revoked_of_run hroles hbefore with hafter | hrevoke
          · exact .inl hafter
          · exact .inr (hrevoked account roleKey hrevoke)
        · exact .inr (hbefore.imp (·.next hnext) (·.next hnext))

/-- **Governance.** In every run of the role store and the timelock the roles are consistent and
held by at least one admin, and a multisig that exists never becomes empty. Once the timelock is
the only admin, every role that is new was granted by an action that had waited for its delay, and
every role that is gone was revoked by one or by the multisig, until such an action makes somebody
else an admin. -/
theorem roles_governed (deployment : TimelockDeployment Hash) (initialDelay : Nat)
    (deployer : Bytes20) (hkeccak256 : Function.Injective deployment.keccak256)
    {start run : TimelockRun Hash}
    (hstart : (governanceMachine deployment initialDelay deployer).Reachable start)
    (hrun : (governanceMachine deployment initialDelay deployer).Run start run) :
    run.timelock.roleStore.Consistent ∧
    (∃ account, run.timelock.roleStore.hasRole account deployment.role.ROLE_ADMIN = true) ∧
    ((∃ account,
        start.timelock.roleStore.hasRole account deployment.role.TIMELOCK_MULTISIG = true) →
      ∃ account,
        run.timelock.roleStore.hasRole account deployment.role.TIMELOCK_MULTISIG = true) ∧
    ((∀ account, start.timelock.roleStore.hasRole account deployment.role.ROLE_ADMIN = true →
        account = deployment.self) →
      Governed deployment start run ∨ ∃ account,
        ExecutedSince deployment start run (.grantRole account deployment.role.ROLE_ADMIN)) := by
  have hreachable := hstart.run hrun
  have hconsistent := roles_consistent hreachable
  refine ⟨hconsistent, (exists_hasRole hconsistent).mp (admins_nonempty hreachable), ?_, ?_⟩
  · intro hmultisig
    refine (exists_hasRole hconsistent).mp (hrun.stable (P := fun run =>
      run.timelock.roleStore.roleMembers deployment.role.TIMELOCK_MULTISIG ≠ []) ?_ hstart ?_)
    · intro _ _ _ _ hnext
      exact roles_next (P := fun roleStore =>
        roleStore.roleMembers deployment.role.TIMELOCK_MULTISIG ≠ [])
        (fun _ _ _ _ hcall => RoleCall.run_members hcall (.inr rfl)) hnext
    · exact (exists_hasRole (roles_consistent hstart)).mpr hmultisig
  · intro honly
    refine (hrun.stable (P := fun run => start.events.length ≤ run.events.length ∧
      (Governed deployment start run ∨ ∃ account, ExecutedSince deployment start run
        (.grantRole account deployment.role.ROLE_ADMIN))) ?_ hstart
      ⟨Nat.le_refl _, .inl ⟨honly, fun _ _ h => .inl h, fun _ _ h => .inl h⟩⟩).2
    rintro step run run' hrun hnext ⟨hlength, hgoverned⟩
    constructor
    · rcases events_next hnext with hevents | ⟨event, hevents⟩
      · rw [hevents]
        exact hlength
      · rw [hevents, List.length_append]
        exact hlength.trans (Nat.le_add_right _ _)
    · rcases hgoverned with hgoverned | ⟨account, hexecuted⟩
      · exact hgoverned.next (governance_recorded hkeccak256 hrun) hkeccak256 hlength hnext
      · exact .inr ⟨account, hexecuted.next hnext⟩

end

-- The deployer hands the roles to the timelock, whose admin grants one once the delay has passed.

def handOver : List RoleCall :=
  [.grantRole 1 1, .grantRole 7 2, .grantRole 8 3, .revokeRole 5 1]

def deployedRun : TimelockRun (List UInt8) where
  timelock :=
    { timelockDelay := 100
      pendingActions := fun _ => 0
      roleStore := RoleStore.construct TimelockSafety.grantDeployment.role 5
      dataStore := DataStore.empty
      signers := [] }
  events := []
  now := 0

/-- Calls of one account after each other. -/
theorem reachable_calls {Hash : Type} [DecidableEq Hash] {deployment : TimelockDeployment Hash}
    {initialDelay : Nat} {deployer msgSender : Bytes20} (hsender : msgSender ≠ deployment.self)
    {run : TimelockRun Hash} {roleStore' : RoleStore} (calls : List RoleCall)
    (hrun : (governanceMachine deployment initialDelay deployer).Reachable run)
    (hcalls : calls.foldlM (fun roleStore c => RoleCall.run deployment.role msgSender roleStore c)
      run.timelock.roleStore = .ok roleStore') :
    (governanceMachine deployment initialDelay deployer).Reachable
      { run with timelock := { run.timelock with roleStore := roleStore' } } := by
  induction calls generalizing run with
  | nil =>
    cases Result.pure_eq_ok.mp hcalls
    exact hrun
  | cons c calls ih =>
    obtain ⟨roleStore, hcall, hcalls⟩ := Result.bind_eq_ok.mp hcalls
    have hnext : (governanceMachine deployment initialDelay deployer).next
        (.roleStore msgSender c) run
        { run with timelock := { run.timelock with roleStore := roleStore } } :=
      ⟨⟨⟨rfl, rfl⟩, rfl, Nat.le_refl _⟩, hsender, hcall⟩
    have hlater := ih (hrun.next hnext) hcalls
    exact hlater

/-- `roles_governed` from the hand-over on. -/
theorem roles_governed_handOver : ∃ start run : TimelockRun (List UInt8),
    (governanceMachine TimelockSafety.grantDeployment 100 5).Run start run ∧
    start.timelock.roleStore.hasRole 9 4 = false ∧ run.timelock.roleStore.hasRole 9 4 = true ∧
    (∃ account, run.timelock.roleStore.hasRole account 3 = true) ∧
    (Governed TimelockSafety.grantDeployment start run ∨ ∃ account,
      ExecutedSince TimelockSafety.grantDeployment start run (.grantRole account 1)) := by
  obtain ⟨roleStore, hcalls, hmembers, hmultisig, hbefore, hsignals⟩ := (by decide +kernel :
    Evm.Result.Satisfies
      (handOver.foldlM (fun roleStore c =>
        RoleCall.run TimelockSafety.grantDeployment.role 5 roleStore c)
        deployedRun.timelock.roleStore)
      fun roleStore => roleStore.roleMembers 1 = [1] ∧ roleStore.hasRole 8 3 = true ∧
        roleStore.hasRole 9 4 = false ∧ Evm.Result.Satisfies
        ((TimelockCall.signal (.grantRole 9 4)).run TimelockSafety.grantDeployment ⟨7, 50⟩
          { deployedRun.timelock with roleStore })
        fun result => Evm.Result.Satisfies
          ((TimelockCall.execute (.grantRole 9 4)).run TimelockSafety.grantDeployment ⟨7, 150⟩
            result.2)
          fun result => result.2.roleStore.hasRole 9 4 = true).exists
  obtain ⟨⟨_, signalled⟩, hsignal, hexecutes⟩ := hsignals.exists
  obtain ⟨⟨_, executed⟩, hexecute, hafter⟩ := hexecutes.exists
  have hstart : (governanceMachine TimelockSafety.grantDeployment 100 5).Reachable
      { deployedRun with timelock := { deployedRun.timelock with roleStore } } :=
    reachable_calls (by decide) handOver (.init ⟨⟨rfl, fun _ => rfl, rfl⟩, rfl⟩) hcalls
  have hrun : (governanceMachine TimelockSafety.grantDeployment 100 5).Run
      { deployedRun with timelock := { deployedRun.timelock with roleStore } }
      ⟨executed, [⟨.signal (.grantRole 9 4), 50, 100⟩,
        ⟨.execute (.grantRole 9 4), 150, signalled.timelockDelay⟩], 150⟩ := by
    have hlater : 50 ≤ 150 := by decide
    refine .head (b := ⟨signalled, [⟨.signal (.grantRole 9 4), 50, 100⟩], 50⟩)
      ⟨.timelock ⟨7, 50⟩ (.signal (.grantRole 9 4)), ⟨Nat.zero_le _, hsignal, rfl, rfl⟩, trivial⟩
      (.single ?_)
    exact ⟨.timelock ⟨7, 150⟩ (.execute (.grantRole 9 4)), ⟨hlater, hexecute, rfl, rfl⟩, trivial⟩
  obtain ⟨-, -, hkept, hgoverned⟩ := roles_governed TimelockSafety.grantDeployment 100 5
    Function.injective_id hstart hrun
  refine ⟨_, _, hrun, hbefore, hafter, hkept ⟨8, hmultisig⟩, hgoverned fun account haccount => ?_⟩
  have hmember := ((roles_consistent hstart).cached account 1).mp haccount
  rw [hmembers] at hmember
  exact List.mem_singleton.mp hmember

end GmxSynthetics
