import GmxSynthetics.Config.Timelock
import GmxSynthetics.Evm.Machine
import GmxSynthetics.Evm.Pending

/-!
# Timelock safety

The runs of the timelock: calls at timestamps that never go back, in any order, while the contracts
that it writes to change under it. A run keeps the history of its successful calls.

* `packed_injective` — different actions have different packed encodings, although packed
  encodings do not determine their parts in general;
* `Recorded` — what is pending was signalled, and nothing has cleared it since;
* `timelock_safe` — every execution consumes a signal of its own that has waited long enough.
-/

namespace GmxSynthetics

open Evm

-- ---------------------------------------------------------------------------
-- Actions
-- ---------------------------------------------------------------------------

/-- The six actions that need a signal, with their arguments. -/
inductive TimelockAction where
  | addOracleSigner (account : Bytes20)
  | removeOracleSigner (account : Bytes20)
  | setFeeReceiver (account : Bytes20)
  | grantRole (account : Bytes20) (roleKey : Bytes32)
  | revokeRole (account : Bytes20) (roleKey : Bytes32)
  | setPriceFeed (token priceFeed : Bytes20)
      (priceFeedMultiplier priceFeedHeartbeatDuration stablePrice : Bytes32)
  deriving DecidableEq, Repr

namespace TimelockAction

/-- What the key of an action is the hash of. -/
def packed : TimelockAction → List UInt8
  | addOracleSigner account =>
    Packed.encodeString "addOracleSigner" ++ Packed.encodeBits 20 account
  | removeOracleSigner account =>
    Packed.encodeString "removeOracleSigner" ++ Packed.encodeBits 20 account
  | setFeeReceiver account =>
    Packed.encodeString "setFeeReceiver" ++ Packed.encodeBits 20 account
  | grantRole account roleKey =>
    Packed.encodeString "grantRole" ++
      (Packed.encodeBits 20 account ++ Packed.encodeBits 32 roleKey)
  | revokeRole account roleKey =>
    Packed.encodeString "revokeRole" ++
      (Packed.encodeBits 20 account ++ Packed.encodeBits 32 roleKey)
  | setPriceFeed token priceFeed priceFeedMultiplier priceFeedHeartbeatDuration stablePrice =>
    Packed.encodeString "setPriceFeed" ++
      (Packed.encodeBits 20 token ++ (Packed.encodeBits 20 priceFeed ++
        (Packed.encodeBits 32 priceFeedMultiplier ++
          (Packed.encodeBits 32 priceFeedHeartbeatDuration ++ Packed.encodeBits 32 stablePrice))))

/-- The number of bytes tells the actions apart. -/
def packedLength : TimelockAction → Nat
  | addOracleSigner _ => 35
  | removeOracleSigner _ => 38
  | setFeeReceiver _ => 34
  | grantRole _ _ => 61
  | revokeRole _ _ => 62
  | setPriceFeed _ _ _ _ _ => 148

/-- The bytes that are hashed for an action have the length of their parts. -/
theorem length_packed (action : TimelockAction) :
    action.packed.length = action.packedLength := by
  have haddOracleSigner : (Packed.encodeString "addOracleSigner").length = 15 := by decide
  have hremoveOracleSigner : (Packed.encodeString "removeOracleSigner").length = 18 := by decide
  have hsetFeeReceiver : (Packed.encodeString "setFeeReceiver").length = 14 := by decide
  have hgrantRole : (Packed.encodeString "grantRole").length = 9 := by decide
  have hrevokeRole : (Packed.encodeString "revokeRole").length = 10 := by decide
  have hsetPriceFeed : (Packed.encodeString "setPriceFeed").length = 12 := by decide
  cases action <;>
    simp only [packed, packedLength, List.length_append, Packed.length_encodeBits, *]

/-- Two account actions of one kind. -/
theorem account_inj {label : List UInt8} {account account' : Bytes20}
    (h : label ++ Packed.encodeBits 20 account = label ++ Packed.encodeBits 20 account') :
    account = account' :=
  Packed.encodeBits_inj (by decide) (List.append_cancel_left h)

/-- Two role actions of one kind. -/
theorem role_inj {label : List UInt8} {account account' : Bytes20} {roleKey roleKey' : Bytes32}
    (h : label ++ (Packed.encodeBits 20 account ++ Packed.encodeBits 32 roleKey) =
      label ++ (Packed.encodeBits 20 account' ++ Packed.encodeBits 32 roleKey')) :
    account = account' ∧ roleKey = roleKey' := by
  have h := List.append_cancel_left h
  obtain ⟨haccount, hrest⟩ := Packed.encodeBits_append_inj (by decide) h
  exact ⟨haccount, Packed.encodeBits_inj (by decide) hrest⟩

/-- **Packed injectivity.** The encodings of two actions agree only when the actions do: those
of different actions differ in length, and the parts of one action have fixed widths. -/
theorem packed_injective : Function.Injective packed := by
  intro action action' h
  have hlength : action.packedLength = action'.packedLength := by
    rw [← length_packed, ← length_packed, h]
  cases action <;> cases action' <;> simp only [packedLength, Nat.reduceEqDiff] at hlength
  case addOracleSigner.addOracleSigner => rw [account_inj h]
  case removeOracleSigner.removeOracleSigner => rw [account_inj h]
  case setFeeReceiver.setFeeReceiver => rw [account_inj h]
  case grantRole.grantRole =>
    obtain ⟨rfl, rfl⟩ := role_inj h
    rfl
  case revokeRole.revokeRole =>
    obtain ⟨rfl, rfl⟩ := role_inj h
    rfl
  case setPriceFeed.setPriceFeed =>
    have h := List.append_cancel_left h
    obtain ⟨htoken, h⟩ := Packed.encodeBits_append_inj (by decide) h
    obtain ⟨hpriceFeed, h⟩ := Packed.encodeBits_append_inj (by decide) h
    obtain ⟨hmultiplier, h⟩ := Packed.encodeBits_append_inj (by decide) h
    obtain ⟨hheartbeat, h⟩ := Packed.encodeBits_append_inj (by decide) h
    rw [htoken, hpriceFeed, hmultiplier, hheartbeat, Packed.encodeBits_inj (by decide) h]

section

variable {Hash : Type} [DecidableEq Hash] (deployment : TimelockDeployment Hash)
  (msg : TimelockMsg)

/-- The key under which an action is signalled. -/
def key : TimelockAction → Hash
  | addOracleSigner account => Timelock._addOracleSignerActionKey deployment account
  | removeOracleSigner account => Timelock._removeOracleSignerActionKey deployment account
  | setFeeReceiver account => Timelock._setFeeReceiverActionKey deployment account
  | grantRole account roleKey => Timelock._grantRoleActionKey deployment account roleKey
  | revokeRole account roleKey => Timelock._revokeRoleActionKey deployment account roleKey
  | setPriceFeed token priceFeed priceFeedMultiplier priceFeedHeartbeatDuration stablePrice =>
    Timelock._setPriceFeedActionKey deployment token priceFeed priceFeedMultiplier
      priceFeedHeartbeatDuration stablePrice

def signal : TimelockAction → Timelock.Call Hash Unit
  | addOracleSigner account => Timelock.signalAddOracleSigner deployment msg account
  | removeOracleSigner account => Timelock.signalRemoveOracleSigner deployment msg account
  | setFeeReceiver account => Timelock.signalSetFeeReceiver deployment msg account
  | grantRole account roleKey => Timelock.signalGrantRole deployment msg account roleKey
  | revokeRole account roleKey => Timelock.signalRevokeRole deployment msg account roleKey
  | setPriceFeed token priceFeed priceFeedMultiplier priceFeedHeartbeatDuration stablePrice =>
    Timelock.signalSetPriceFeed deployment msg token priceFeed priceFeedMultiplier
      priceFeedHeartbeatDuration stablePrice

/-- The function whose name ends in `AfterSignal`. -/
def execute : TimelockAction → Timelock.Call Hash Unit
  | addOracleSigner account => Timelock.addOracleSignerAfterSignal deployment msg account
  | removeOracleSigner account => Timelock.removeOracleSignerAfterSignal deployment msg account
  | setFeeReceiver account => Timelock.setFeeReceiverAfterSignal deployment msg account
  | grantRole account roleKey => Timelock.grantRoleAfterSignal deployment msg account roleKey
  | revokeRole account roleKey => Timelock.revokeRoleAfterSignal deployment msg account roleKey
  | setPriceFeed token priceFeed priceFeedMultiplier priceFeedHeartbeatDuration stablePrice =>
    Timelock.setPriceFeedAfterSignal deployment msg token priceFeed priceFeedMultiplier
      priceFeedHeartbeatDuration stablePrice

omit [DecidableEq Hash] in
/-- The key of an action is the hash of its bytes. -/
theorem key_eq_keccak256 (action : TimelockAction) :
    action.key deployment = deployment.keccak256 action.packed := by
  cases action <;> rfl

omit [DecidableEq Hash] in
/-- Keys of different actions or different arguments never coincide. -/
theorem key_injective (hkeccak256 : Function.Injective deployment.keccak256) :
    Function.Injective (key deployment) := by
  intro action action' h
  rw [key_eq_keccak256, key_eq_keccak256] at h
  exact packed_injective (hkeccak256 h)

end

end TimelockAction

-- ---------------------------------------------------------------------------
-- What each call does to the book
-- ---------------------------------------------------------------------------

namespace Timelock

variable {Hash : Type} [DecidableEq Hash] {deployment : TimelockDeployment Hash}
  {msg : TimelockMsg} {timelock timelock' : Timelock Hash} {actionKey : Hash}

/-- The delay and the pending actions are as before. -/
structure SameBook (timelock timelock' : Timelock Hash) : Prop where
  timelockDelay : timelock'.timelockDelay = timelock.timelockDelay
  pendingActions : timelock'.pendingActions = timelock.pendingActions

instance : IsPreorder (Timelock Hash) SameBook where
  refl _ := ⟨rfl, rfl⟩
  trans _ _ _ h h' := ⟨h'.timelockDelay.trans h.timelockDelay,
    h'.pendingActions.trans h.pendingActions⟩

/-- The action was not pending, and is until the delay in force has passed. -/
structure Signals (msg : TimelockMsg) (actionKey : Hash) (timelock timelock' : Timelock Hash) :
    Prop where
  notPending : timelock.pendingActions actionKey = 0
  timelockDelay : timelock'.timelockDelay = timelock.timelockDelay
  pendingActions : timelock'.pendingActions = Function.update timelock.pendingActions actionKey
    (msg.timestamp + timelock.timelockDelay)

/-- The action was pending, and is no more. -/
structure ClearsKey (actionKey : Hash) (timelock timelock' : Timelock Hash) : Prop where
  pending : timelock.pendingActions actionKey ≠ 0
  timelockDelay : timelock'.timelockDelay = timelock.timelockDelay
  pendingActions : timelock'.pendingActions = Function.update timelock.pendingActions actionKey 0

omit [DecidableEq Hash] in
/-- What an administrator calls is called after the check. -/
theorem onlyTimelockAdmin_then {tail : Unit → Call Hash Unit}
    (h : (onlyTimelockAdmin deployment msg >>= tail) timelock = .ok ((), timelock')) :
    tail () timelock = .ok ((), timelock') := by
  unfold onlyTimelockAdmin at h
  rw [Tx.view_bind_eq_ok] at h
  obtain ⟨_, -, h⟩ := h
  exact h

omit [DecidableEq Hash] in
/-- Roles are not in the book of pending actions. -/
theorem keeps_setRoleStore (f : RoleStore → Result RoleStore) :
    Tx.Keeps SameBook (setRoleStore f : Call Hash Unit) := by
  intro timelock _ timelock' h
  unfold setRoleStore at h
  rw [Tx.view_bind_eq_ok] at h
  obtain ⟨roleStore, -, h⟩ := h
  rw [← Tx.write_eq_ok.mp h]
  exact ⟨rfl, rfl⟩

omit [DecidableEq Hash] in
/-- Nor is the data store. -/
theorem keeps_setDataStore (f : DataStore → DataStore) :
    Tx.Keeps SameBook (setDataStore deployment f) := by
  intro timelock _ timelock' h
  unfold setDataStore onlyController at h
  rw [Tx.view_bind_eq_ok] at h
  obtain ⟨_, -, h⟩ := h
  rw [← Tx.write_eq_ok.mp h]
  exact ⟨rfl, rfl⟩

omit [DecidableEq Hash] in
/-- Nor are the signers. -/
theorem keeps_setSigners (f : List Bytes20 → List Bytes20) :
    Tx.Keeps SameBook (setSigners deployment f) := by
  intro timelock _ timelock' h
  unfold setSigners onlyController at h
  rw [Tx.view_bind_eq_ok] at h
  obtain ⟨_, -, h⟩ := h
  rw [← Tx.write_eq_ok.mp h]
  exact ⟨rfl, rfl⟩

/-- A signal enters the key with the time from which it may be executed. -/
theorem _signalPendingAction_signals
    (h : _signalPendingAction msg actionKey timelock = .ok ((), timelock')) :
    Signals msg actionKey timelock timelock' := by
  unfold _signalPendingAction setPendingAction at h
  simp only [Tx.read_bind_eq_ok, Tx.lift_bind_eq_ok, revertIf, Result.revertIf_eq_ok,
    not_not, add_eq_ok] at h
  obtain ⟨_, hpending, _, ⟨-, rfl⟩, h⟩ := h
  rw [← Tx.write_eq_ok.mp h]
  exact ⟨hpending, rfl, rfl⟩

/-- Clearing takes the key out. -/
theorem _clearAction_clears (h : _clearAction actionKey timelock = .ok ((), timelock')) :
    ClearsKey actionKey timelock timelock' := by
  unfold _clearAction setPendingAction at h
  simp only [Tx.read_bind_eq_ok, Tx.lift_bind_eq_ok, revertIf, Result.revertIf_eq_ok] at h
  obtain ⟨_, hpending, h⟩ := h
  rw [← Tx.write_eq_ok.mp h]
  exact ⟨hpending, rfl, rfl⟩

/-- An execution passes the check and clears the action before it writes anything else. -/
theorem validateAndClear_then {tail : Unit → Call Hash Unit}
    (htail : Tx.Keeps SameBook (tail ()))
    (h : (_validateAndClearAction msg actionKey >>= tail) timelock = .ok ((), timelock')) :
    ClearsKey actionKey timelock timelock' ∧
      timelock.pendingActions actionKey ≤ msg.timestamp := by
  obtain ⟨_, cleared, hclear, htail'⟩ := Tx.bind_eq_ok.mp h
  unfold _validateAndClearAction _validateAction at hclear
  obtain ⟨_, checked, hvalidate, hclear⟩ := Tx.bind_eq_ok.mp hclear
  simp only [Tx.read_bind_eq_ok, Tx.lift_bind_eq_ok, Tx.lift_eq_ok, revertIf,
    Result.revertIf_eq_ok] at hvalidate
  obtain ⟨_, -, hpassed, rfl⟩ := hvalidate
  have hcleared := _clearAction_clears hclear
  have hsame := htail htail'
  refine ⟨⟨hcleared.pending, ?_, ?_⟩, Nat.le_of_not_lt hpassed⟩
  · rw [hsame.timelockDelay, hcleared.timelockDelay]
  · rw [hsame.pendingActions, hcleared.pendingActions]

omit [DecidableEq Hash] in
/-- Setting a price feed writes no pending action. -/
theorem keeps_setPriceFeed (token priceFeed : Bytes20)
    (priceFeedMultiplier priceFeedHeartbeatDuration stablePrice : Bytes32) :
    Tx.Keeps SameBook (do
      setDataStore deployment (·.setAddress (Keys.priceFeedKey token.toNat) priceFeed.toNat)
      setDataStore deployment
        (·.setUint (Keys.priceFeedMultiplierKey token.toNat) priceFeedMultiplier.toNat)
      setDataStore deployment (·.setUint (Keys.priceFeedHeartbeatDurationKey token.toNat)
        priceFeedHeartbeatDuration.toNat)
      setDataStore deployment (·.setUint (Keys.stablePriceKey token.toNat) stablePrice.toNat) :
        Call Hash Unit) := by
  refine Tx.keeps_bind (keeps_setDataStore _) fun _ => ?_
  refine Tx.keeps_bind (keeps_setDataStore _) fun _ => ?_
  refine Tx.keeps_bind (keeps_setDataStore _) fun _ => ?_
  exact keeps_setDataStore _

end Timelock

namespace TimelockAction

variable {Hash : Type} [DecidableEq Hash] {deployment : TimelockDeployment Hash}
  {msg : TimelockMsg} {timelock timelock' : Timelock Hash} {action : TimelockAction}

/-- A signal of any action makes its key pending. -/
theorem signal_signals (h : action.signal deployment msg timelock = .ok ((), timelock')) :
    Timelock.Signals msg (action.key deployment) timelock timelock' := by
  cases action with
  | addOracleSigner account =>
    have h := Timelock.onlyTimelockAdmin_then h
    rw [Tx.lift_bind_eq_ok] at h
    obtain ⟨_, -, h⟩ := h
    exact Timelock._signalPendingAction_signals h
  | removeOracleSigner account =>
    have h := Timelock.onlyTimelockAdmin_then h
    rw [Tx.lift_bind_eq_ok] at h
    obtain ⟨_, -, h⟩ := h
    exact Timelock._signalPendingAction_signals h
  | setFeeReceiver account =>
    have h := Timelock.onlyTimelockAdmin_then h
    rw [Tx.lift_bind_eq_ok] at h
    obtain ⟨_, -, h⟩ := h
    exact Timelock._signalPendingAction_signals h
  | grantRole account roleKey =>
    have h := Timelock.onlyTimelockAdmin_then h
    exact Timelock._signalPendingAction_signals h
  | revokeRole account roleKey =>
    have h := Timelock.onlyTimelockAdmin_then h
    exact Timelock._signalPendingAction_signals h
  | setPriceFeed token priceFeed priceFeedMultiplier priceFeedHeartbeatDuration stablePrice =>
    have h := Timelock.onlyTimelockAdmin_then h
    exact Timelock._signalPendingAction_signals h

/-- An execution of any action clears its key, once the time it was signalled for has come. -/
theorem execute_clears (h : action.execute deployment msg timelock = .ok ((), timelock')) :
    Timelock.ClearsKey (action.key deployment) timelock timelock' ∧
      timelock.pendingActions (action.key deployment) ≤ msg.timestamp := by
  cases action with
  | addOracleSigner account =>
    have h := Timelock.onlyTimelockAdmin_then h
    exact Timelock.validateAndClear_then (Timelock.keeps_setSigners _) h
  | removeOracleSigner account =>
    have h := Timelock.onlyTimelockAdmin_then h
    exact Timelock.validateAndClear_then (Timelock.keeps_setSigners _) h
  | setFeeReceiver account =>
    have h := Timelock.onlyTimelockAdmin_then h
    exact Timelock.validateAndClear_then (Timelock.keeps_setDataStore _) h
  | grantRole account roleKey =>
    have h := Timelock.onlyTimelockAdmin_then h
    exact Timelock.validateAndClear_then (Timelock.keeps_setRoleStore _) h
  | revokeRole account roleKey =>
    have h := Timelock.onlyTimelockAdmin_then h
    exact Timelock.validateAndClear_then (Timelock.keeps_setRoleStore _) h
  | setPriceFeed token priceFeed priceFeedMultiplier priceFeedHeartbeatDuration stablePrice =>
    have h := Timelock.onlyTimelockAdmin_then h
    exact Timelock.validateAndClear_then (Timelock.keeps_setPriceFeed token priceFeed
      priceFeedMultiplier priceFeedHeartbeatDuration stablePrice) h

end TimelockAction

-- ---------------------------------------------------------------------------
-- Calls and their history
-- ---------------------------------------------------------------------------

/-- The external functions of the timelock. -/
inductive TimelockCall (Hash : Type) where
  | revokeRole (account : Bytes20) (roleKey : Bytes32)
  | increaseTimelockDelay (timelockDelay : Nat)
  | signal (action : TimelockAction)
  | execute (action : TimelockAction)
  | cancelAction (actionKey : Hash)
  deriving DecidableEq, Repr

section

variable {Hash : Type} [DecidableEq Hash] (deployment : TimelockDeployment Hash)

def TimelockCall.run (msg : TimelockMsg) : TimelockCall Hash → Timelock.Call Hash Unit
  | .revokeRole account roleKey => Timelock.revokeRole deployment msg account roleKey
  | .increaseTimelockDelay timelockDelay =>
    Timelock.increaseTimelockDelay deployment msg timelockDelay
  | .signal action => action.signal deployment msg
  | .execute action => action.execute deployment msg
  | .cancelAction actionKey => Timelock.cancelAction deployment msg actionKey

/-- A successful call, when it was made and the delay in force before it. -/
structure TimelockEvent (Hash : Type) where
  call : TimelockCall Hash
  timestamp : Nat
  timelockDelay : Nat

namespace TimelockEvent

def Signals (event : TimelockEvent Hash) (action : TimelockAction) : Prop :=
  event.call = .signal action

def Executes (event : TimelockEvent Hash) (action : TimelockAction) : Prop :=
  event.call = .execute action

/-- The event cancels the action, or consumes its signal. -/
def Clears (event : TimelockEvent Hash) (action : TimelockAction) : Prop :=
  event.call = .cancelAction (action.key deployment) ∨ event.call = .execute action

end TimelockEvent

/-- The timelock, its history, the oldest call first, and the timestamp of the last block. -/
structure TimelockRun (Hash : Type) where
  timelock : Timelock Hash
  events : List (TimelockEvent Hash)
  now : Nat

/-- Someone calls the timelock, or the contracts that it writes to change without it. -/
inductive TimelockStep (Hash : Type) where
  | call (msg : TimelockMsg) (call : TimelockCall Hash)
  | outside

/-- The runs of a timelock that is constructed with a given delay. A call that reverts leaves
nothing behind; the contracts outside may be in any state at any time. -/
def timelockMachine (initialDelay : Nat) : Machine (TimelockRun Hash) (TimelockStep Hash) where
  init run := run.timelock.timelockDelay = initialDelay ∧
    (∀ actionKey, run.timelock.pendingActions actionKey = 0) ∧ run.events = []
  next step run run' :=
    match step with
    | .call msg call => run.now ≤ msg.timestamp ∧
        call.run deployment msg run.timelock = .ok ((), run'.timelock) ∧
        run'.events = run.events ++ [⟨call, msg.timestamp, run.timelock.timelockDelay⟩] ∧
        run'.now = msg.timestamp
    | .outside => Timelock.SameBook run.timelock run'.timelock ∧ run'.events = run.events ∧
        run.now ≤ run'.now

end

namespace TimelockSafety

-- ---------------------------------------------------------------------------
-- The invariant
-- ---------------------------------------------------------------------------

section

variable {Hash : Type} [DecidableEq Hash] (deployment : TimelockDeployment Hash)

/-- The event at `i` executes the action on the signal at `j`: nothing in between cancelled the
action or executed it, and the delay in force at the signal has passed. -/
structure Consumes (events : List (TimelockEvent Hash)) (action : TimelockAction) (j i : Nat)
    (signalled executed : TimelockEvent Hash) : Prop where
  closed : Pending.ClosedBy TimelockEvent.Signals (TimelockEvent.Clears deployment) events action
    j i signalled executed
  executes : executed.Executes action
  waited : signalled.timestamp + signalled.timelockDelay ≤ executed.timestamp

/-- What is pending was signalled and not cleared since, for the time that the signal was made
plus the delay in force; what was executed consumed a signal. -/
structure Recorded (run : TimelockRun Hash) : Prop where
  pending : ∀ actionKey, run.timelock.pendingActions actionKey ≠ 0 →
    ∃ action j signalled, action.key deployment = actionKey ∧
      Pending.OpenSince TimelockEvent.Signals (TimelockEvent.Clears deployment) run.events action
        j signalled ∧
      signalled.timestamp + signalled.timelockDelay = run.timelock.pendingActions actionKey
  executed : ∀ i executed action, run.events[i]? = some executed → executed.Executes action →
    ∃ j signalled, Consumes deployment run.events action j i signalled executed

variable {deployment} {run run' : TimelockRun Hash} {event : TimelockEvent Hash}

omit [DecidableEq Hash] in
/-- What was consumed stays consumed. -/
theorem Consumes.append {events : List (TimelockEvent Hash)} {action : TimelockAction} {j i : Nat}
    {signalled executed : TimelockEvent Hash}
    (h : Consumes deployment events action j i signalled executed) :
    Consumes deployment (events ++ [event]) action j i signalled executed :=
  ⟨h.closed.append, h.executes, h.waited⟩

omit [DecidableEq Hash] in
/-- Executions of the longer history: those from before, and the last event. -/
theorem Recorded.executed_append (hrun : Recorded deployment run)
    (hlast : ∀ action, event.Executes action → ∃ j signalled,
      Consumes deployment (run.events ++ [event]) action j run.events.length signalled event)
    {i : Nat} {executed : TimelockEvent Hash} {action : TimelockAction}
    (hexecuted : (run.events ++ [event])[i]? = some executed) (haction : executed.Executes action) :
    ∃ j signalled, Consumes deployment (run.events ++ [event]) action j i signalled executed := by
  rcases Pending.position_append hexecuted with hbefore | ⟨rfl, rfl⟩
  · obtain ⟨j, signalled, hconsumes⟩ := hrun.executed i executed action hbefore haction
    exact ⟨j, signalled, hconsumes.append⟩
  · exact hlast action haction

omit [DecidableEq Hash] in
/-- A call that leaves the pending actions as they are, and clears none. -/
theorem Recorded.append (hrun : Recorded deployment run)
    (hevents : run'.events = run.events ++ [event])
    (hpending : run'.timelock.pendingActions = run.timelock.pendingActions)
    (hclears : ∀ action, ¬ event.Clears deployment action) : Recorded deployment run' where
  pending := by
    intro actionKey hne
    rw [hpending] at hne
    obtain ⟨action, j, signalled, hkey, hopen, htime⟩ := hrun.pending actionKey hne
    rw [hevents, hpending]
    exact ⟨action, j, signalled, hkey, hopen.append (hclears action), htime⟩
  executed := by
    rw [hevents]
    intro i executed action
    refine hrun.executed_append fun action' hexecutes => ?_
    exact absurd (.inr hexecutes) (hclears action')

/-- A signal opens its own entry and leaves the others. -/
theorem Recorded.signal (hrun : Recorded deployment run) {msg : TimelockMsg}
    {action : TimelockAction}
    (hevents : run'.events = run.events ++
      [⟨.signal action, msg.timestamp, run.timelock.timelockDelay⟩])
    (hsignals : Timelock.Signals msg (action.key deployment) run.timelock run'.timelock) :
    Recorded deployment run' where
  pending := by
    intro actionKey hne
    rw [hevents, hsignals.pendingActions]
    rw [hsignals.pendingActions] at hne
    rcases eq_or_ne actionKey (action.key deployment) with rfl | hother
    · refine ⟨action, _, _, rfl, .last rfl, ?_⟩
      rw [Function.update_self]
    · rw [Function.update_of_ne hother] at hne ⊢
      obtain ⟨action', j, signalled, hkey, hopen, htime⟩ := hrun.pending actionKey hne
      refine ⟨action', j, signalled, hkey, hopen.append ?_, htime⟩
      rintro (h | h) <;> cases h
  executed := by
    rw [hevents]
    intro i executed action'
    refine hrun.executed_append fun _ hexecutes => ?_
    cases hexecutes

/-- A cancellation or an execution closes the entry of its key and leaves the others. -/
theorem Recorded.clear (hrun : Recorded deployment run) {actionKey : Hash}
    (hclears : Timelock.ClearsKey actionKey run.timelock run'.timelock)
    (hevents : run'.events = run.events ++ [event])
    (hevent : ∀ action, event.Clears deployment action → action.key deployment = actionKey)
    (hexecuted : ∀ action, event.Executes action → ∃ j signalled,
      Consumes deployment (run.events ++ [event]) action j run.events.length signalled event) :
    Recorded deployment run' where
  pending := by
    intro actionKey' hne
    rw [hevents, hclears.pendingActions]
    rw [hclears.pendingActions] at hne
    rcases eq_or_ne actionKey' actionKey with rfl | hother
    · rw [Function.update_self] at hne
      exact absurd rfl hne
    · rw [Function.update_of_ne hother] at hne ⊢
      obtain ⟨action, j, signalled, hkey, hopen, htime⟩ := hrun.pending actionKey' hne
      refine ⟨action, j, signalled, hkey, hopen.append fun h => hother ?_, htime⟩
      rw [← hkey]
      exact hevent action h
  executed := by
    rw [hevents]
    intro i executed action
    exact hrun.executed_append hexecuted

-- ---------------------------------------------------------------------------
-- One call
-- ---------------------------------------------------------------------------

variable {initialDelay : Nat} {msg : TimelockMsg}

omit [DecidableEq Hash] in
/-- A multisig that revokes a role leaves the book. -/
theorem revokeRole_sameBook {timelock timelock' : Timelock Hash} {account : Bytes20}
    {roleKey : Bytes32} (h : Timelock.revokeRole deployment msg account roleKey timelock =
      .ok ((), timelock')) : Timelock.SameBook timelock timelock' := by
  unfold Timelock.revokeRole Timelock.onlyTimelockMultisig at h
  rw [Tx.view_bind_eq_ok] at h
  obtain ⟨_, -, h⟩ := h
  exact Timelock.keeps_setRoleStore _ h

omit [DecidableEq Hash] in
/-- The delay only grows, and never past its bound. -/
theorem increaseTimelockDelay_grows {timelock timelock' : Timelock Hash} {timelockDelay : Nat}
    (h : Timelock.increaseTimelockDelay deployment msg timelockDelay timelock =
      .ok ((), timelock')) :
    timelock.timelockDelay < timelock'.timelockDelay ∧
      timelock'.timelockDelay ≤ Timelock.MAX_TIMELOCK_DELAY ∧
      timelock'.pendingActions = timelock.pendingActions := by
  unfold Timelock.increaseTimelockDelay at h
  have h := Timelock.onlyTimelockAdmin_then h
  simp only [Tx.read_bind_eq_ok, Tx.lift_bind_eq_ok, revertIf, Result.revertIf_eq_ok] at h
  obtain ⟨_, hgrows, _, hbound, h⟩ := h
  rw [← Tx.write_eq_ok.mp h]
  exact ⟨Nat.lt_of_not_le hgrows, Nat.le_of_not_lt hbound, rfl⟩

/-- A cancelled action is cleared. -/
theorem cancelAction_clears {timelock timelock' : Timelock Hash} {actionKey : Hash}
    (h : Timelock.cancelAction deployment msg actionKey timelock = .ok ((), timelock')) :
    Timelock.ClearsKey actionKey timelock timelock' :=
  Timelock._clearAction_clears (Timelock.onlyTimelockAdmin_then h)

/-- An execution finds the signal that made its key pending, and consumes it. -/
theorem Recorded.consumes (hkeccak256 : Function.Injective deployment.keccak256)
    (hrun : Recorded deployment run) {action : TimelockAction} {timelock' : Timelock Hash}
    (hexecute : action.execute deployment msg run.timelock = .ok ((), timelock')) :
    ∃ j signalled, Consumes deployment
      (run.events ++ [⟨.execute action, msg.timestamp, run.timelock.timelockDelay⟩]) action j
      run.events.length signalled ⟨.execute action, msg.timestamp, run.timelock.timelockDelay⟩ := by
  obtain ⟨hclears, hpassed⟩ := TimelockAction.execute_clears hexecute
  obtain ⟨action', j, signalled, hkey, hopen, htime⟩ := hrun.pending _ hclears.pending
  have haction : action' = action := TimelockAction.key_injective deployment hkeccak256 hkey
  subst haction
  refine ⟨j, signalled, hopen.closed (.inr rfl), rfl, ?_⟩
  rw [htime]
  exact hpassed

/-- Every step keeps the record of what was signalled and executed. -/
theorem Recorded.next (hkeccak256 : Function.Injective deployment.keccak256)
    {step : TimelockStep Hash} (hrun : Recorded deployment run)
    (hnext : (timelockMachine deployment initialDelay).next step run run') :
    Recorded deployment run' := by
  cases step with
  | outside =>
    obtain ⟨hsame, hevents, -⟩ := hnext
    refine ⟨?_, ?_⟩
    · rw [hsame.pendingActions, hevents]
      exact hrun.pending
    · rw [hevents]
      exact hrun.executed
  | call msg call =>
    obtain ⟨-, hcall, hevents, -⟩ := hnext
    cases call with
    | revokeRole account roleKey =>
      refine hrun.append hevents (revokeRole_sameBook hcall).pendingActions fun action h => ?_
      rcases h with h | h <;> cases h
    | increaseTimelockDelay timelockDelay =>
      refine hrun.append hevents (increaseTimelockDelay_grows hcall).2.2 fun action h => ?_
      rcases h with h | h <;> cases h
    | signal action => exact hrun.signal hevents (TimelockAction.signal_signals hcall)
    | execute action =>
      refine hrun.clear (TimelockAction.execute_clears hcall).1 hevents ?_ ?_
      · rintro action' (h | h) <;> cases h
        rfl
      · intro action' h
        cases h
        exact hrun.consumes hkeccak256 hcall
    | cancelAction actionKey =>
      refine hrun.clear (cancelAction_clears hcall) hevents ?_ ?_
      · rintro action' (h | h) <;> cases h
        rfl
      · intro action' h
        cases h

/-- Every call leaves the delay or raises it to something within its bound. -/
theorem delay_next {step : TimelockStep Hash}
    (hnext : (timelockMachine deployment initialDelay).next step run run') :
    run'.timelock.timelockDelay = run.timelock.timelockDelay ∨
      (run.timelock.timelockDelay < run'.timelock.timelockDelay ∧
        run'.timelock.timelockDelay ≤ Timelock.MAX_TIMELOCK_DELAY) := by
  cases step with
  | outside => exact .inl hnext.1.timelockDelay
  | call msg call =>
    obtain ⟨-, hcall, -, -⟩ := hnext
    cases call with
    | revokeRole account roleKey => exact .inl (revokeRole_sameBook hcall).timelockDelay
    | increaseTimelockDelay timelockDelay =>
      obtain ⟨hgrows, hbound, -⟩ := increaseTimelockDelay_grows hcall
      exact .inr ⟨hgrows, hbound⟩
    | signal action => exact .inl (TimelockAction.signal_signals hcall).timelockDelay
    | execute action => exact .inl (TimelockAction.execute_clears hcall).1.timelockDelay
    | cancelAction actionKey => exact .inl (cancelAction_clears hcall).timelockDelay

-- ---------------------------------------------------------------------------
-- Whole runs
-- ---------------------------------------------------------------------------

/-- So it holds in every run. -/
theorem recorded_of_reachable (hkeccak256 : Function.Injective deployment.keccak256)
    (h : (timelockMachine deployment initialDelay).Reachable run) : Recorded deployment run := by
  refine h.invariant ?_ fun _ _ _ _ hnext hrun => hrun.next hkeccak256 hnext
  rintro run ⟨-, hpending, hevents⟩
  refine ⟨fun actionKey hne => absurd (hpending actionKey) hne, ?_⟩
  intro i executed action hexecuted
  rw [hevents, List.getElem?_nil] at hexecuted
  cases hexecuted

/-- Along a run the delay never decreases. -/
theorem delay_le_of_run (hrun : (timelockMachine deployment initialDelay).Run run run') :
    run.timelock.timelockDelay ≤ run'.timelock.timelockDelay := by
  induction hrun with
  | refl => exact Nat.le_refl _
  | tail _ hnext ih =>
    obtain ⟨_, hnext⟩ := hnext
    rcases delay_next hnext with heq | ⟨hgrows, -⟩
    · rw [heq]
      exact ih
    · omega

/-- The delay stays below its maximum. -/
theorem delay_le_max (hinitial : initialDelay ≤ Timelock.MAX_TIMELOCK_DELAY)
    (h : (timelockMachine deployment initialDelay).Reachable run) :
    run.timelock.timelockDelay ≤ Timelock.MAX_TIMELOCK_DELAY := by
  induction h with
  | init h =>
    rw [h.1]
    exact hinitial
  | step _ _ hnext ih =>
    rcases delay_next hnext with heq | ⟨-, hbound⟩
    · rw [heq]
      exact ih
    · exact hbound

omit [DecidableEq Hash] in
/-- A signal is of one action, and is consumed once. -/
theorem Consumes.unique {events : List (TimelockEvent Hash)} {action action' : TimelockAction}
    {j i i' : Nat} {signalled executed signalled' executed' : TimelockEvent Hash}
    (h : Consumes deployment events action j i signalled executed)
    (h' : Consumes deployment events action' j i' signalled' executed') : i = i' := by
  have hevent : signalled = signalled' :=
    Option.some.inj (h.closed.openedAt.symm.trans h'.closed.openedAt)
  have haction : action = action' := by
    have hopens : signalled'.call = .signal action := hevent ▸ h.closed.isOpening
    have hsame : TimelockCall.signal action = .signal action' :=
      hopens.symm.trans h'.closed.isOpening
    injection hsame
  subst haction
  exact h.closed.unique h'.closed

/-- **Timelock safety.** In every run each execution consumes a signal of the same action with
the same arguments, made at least the delay in force at the signal before, that nothing in between
cancelled or consumed; two executions consume two signals; keys of different actions differ; the
delay never decreases, and stays within its bound if it starts there. -/
theorem timelock_safe (deployment : TimelockDeployment Hash) (initialDelay : Nat)
    (hkeccak256 : Function.Injective deployment.keccak256) :
    (∀ run, (timelockMachine deployment initialDelay).Reachable run →
      (∀ i executed action, run.events[i]? = some executed → executed.Executes action →
        ∃ j signalled, Consumes deployment run.events action j i signalled executed) ∧
      (∀ action action' j i i' signalled executed signalled' executed',
        Consumes deployment run.events action j i signalled executed →
        Consumes deployment run.events action' j i' signalled' executed' → i = i')) ∧
    (∀ action action' : TimelockAction,
      action.key deployment = action'.key deployment → action = action') ∧
    (∀ run run', (timelockMachine deployment initialDelay).Reachable run →
      (timelockMachine deployment initialDelay).Run run run' →
      run.timelock.timelockDelay ≤ run'.timelock.timelockDelay) ∧
    (initialDelay ≤ Timelock.MAX_TIMELOCK_DELAY →
      ∀ run, (timelockMachine deployment initialDelay).Reachable run →
        run.timelock.timelockDelay ≤ Timelock.MAX_TIMELOCK_DELAY) := by
  refine ⟨fun run hrun => ⟨?_, ?_⟩, ?_, ?_, ?_⟩
  · exact (recorded_of_reachable hkeccak256 hrun).executed
  · intro action action' j i i' signalled executed signalled' executed' h h'
    exact h.unique h'
  · exact fun action action' h => TimelockAction.key_injective deployment hkeccak256 h
  · exact fun run run' _ hrun => delay_le_of_run hrun
  · exact fun hinitial run hrun => delay_le_max hinitial hrun

end

-- An admin signals a grant and executes it once the delay of 100 seconds has passed.

def grantDeployment : TimelockDeployment (List UInt8) where
  keccak256 := id
  self := 1
  role := { ROLE_ADMIN := 1, TIMELOCK_ADMIN := 2, TIMELOCK_MULTISIG := 3, CONTROLLER := 4 }

def grantStart : TimelockRun (List UInt8) where
  timelock :=
    { timelockDelay := 100
      pendingActions := fun _ => 0
      roleStore :=
        { roles := [1, 2]
          roleMembers := fun roleKey =>
            if roleKey = 1 then [1] else if roleKey = 2 then [7] else []
          roleCache := fun account roleKey =>
            (account = 1 ∧ roleKey = 1) ∨ (account = 7 ∧ roleKey = 2) }
      dataStore := DataStore.empty
      signers := [] }
  events := []
  now := 0

/-- `timelock_safe` for a run that signals and executes. -/
theorem timelock_safe_grant : ∃ run : TimelockRun (List UInt8),
    (timelockMachine grantDeployment 100).Reachable run ∧
    (∃ executed, run.events[1]? = some executed ∧ executed.Executes (.grantRole 9 4) ∧
      ∃ j signalled, Consumes grantDeployment run.events (.grantRole 9 4) j 1 signalled executed) ∧
    run.timelock.timelockDelay ≤ Timelock.MAX_TIMELOCK_DELAY := by
  have hsafe := timelock_safe grantDeployment 100 Function.injective_id
  obtain ⟨⟨_, signalled⟩, hsignal, hexecutes⟩ := (by decide +kernel : Evm.Result.Satisfies
    ((TimelockCall.signal (.grantRole 9 4)).run grantDeployment ⟨7, 50⟩ grantStart.timelock)
    fun result => Evm.Result.Satisfies
      ((TimelockCall.execute (.grantRole 9 4)).run grantDeployment ⟨7, 150⟩ result.2)
      fun _ => True).exists
  obtain ⟨⟨_, executed⟩, hexecute, -⟩ := hexecutes.exists
  have hreachable : (timelockMachine grantDeployment 100).Reachable
      ⟨executed, [⟨.signal (.grantRole 9 4), 50, 100⟩,
        ⟨.execute (.grantRole 9 4), 150, signalled.timelockDelay⟩], 150⟩ := by
    have hstart : (timelockMachine grantDeployment 100).Reachable grantStart :=
      .init ⟨rfl, fun _ => rfl, rfl⟩
    have hsignalled : (timelockMachine grantDeployment 100).Reachable
        ⟨signalled, [⟨.signal (.grantRole 9 4), 50, 100⟩], 50⟩ :=
      hstart.next (i := .call ⟨7, 50⟩ (.signal (.grantRole 9 4)))
        ⟨Nat.zero_le _, hsignal, rfl, rfl⟩
    have hlater : 50 ≤ 150 := by decide
    exact hsignalled.next (i := .call ⟨7, 150⟩ (.execute (.grantRole 9 4)))
      ⟨hlater, hexecute, rfl, rfl⟩
  refine ⟨_, hreachable, ⟨_, rfl, rfl, ?_⟩, ?_⟩
  · exact (hsafe.1 _ hreachable).1 1 _ _ rfl rfl
  · exact hsafe.2.2.2 (by decide) _ hreachable

end TimelockSafety

end GmxSynthetics
