import GmxSynthetics.Data.DataStore
import GmxSynthetics.Evm.EnumerableSet
import GmxSynthetics.Evm.PackedEncoding

/-!
# Timelock

`Timelock.sol`, with the parts of `RoleStore.sol`, `RoleModule.sol` and `OracleStore.sol` that it
calls. Six actions are signalled first and executed after a delay; a signal is stored under the
hash of the packed encoding of the action and its arguments.
-/

namespace GmxSynthetics

open Evm

/-- `address` as an argument that is encoded in 20 bytes. -/
abbrev Bytes20 := BitVec 160

/-- `bytes32` and `uint256`. -/
abbrev Bytes32 := BitVec 256

-- ---------------------------------------------------------------------------
-- RoleStore.sol
-- ---------------------------------------------------------------------------

/-- The keys of `Role.sol` that the contracts below compare with. -/
structure Role where
  ROLE_ADMIN : Bytes32
  TIMELOCK_ADMIN : Bytes32
  TIMELOCK_MULTISIG : Bytes32
  CONTROLLER : Bytes32

structure RoleStore where
  roles : List Bytes32
  roleMembers : Bytes32 → List Bytes20
  roleCache : Bytes20 → Bytes32 → Bool

namespace RoleStore

variable (role : Role) (roleStore : RoleStore)

def hasRole (account : Bytes20) (roleKey : Bytes32) : Bool := roleStore.roleCache account roleKey

/-- `RoleModule._validateRole`. -/
def _validateRole (msgSender : Bytes20) (roleKey : Bytes32) (roleName : String) : Result Unit :=
  revertIf (roleStore.hasRole msgSender roleKey = false) (.Unauthorized msgSender.toNat roleName)

def _grantRole (account : Bytes20) (roleKey : Bytes32) : RoleStore where
  roles := EnumerableSet.add roleStore.roles roleKey
  roleMembers := Function.update roleStore.roleMembers roleKey
    (EnumerableSet.add (roleStore.roleMembers roleKey) account)
  roleCache := Function.update roleStore.roleCache account
    (Function.update (roleStore.roleCache account) roleKey true)

def _revokeRole (account : Bytes20) (roleKey : Bytes32) : Result RoleStore := do
  let members := EnumerableSet.remove (roleStore.roleMembers roleKey) account
  revertIf (members.length = 0 ∧ roleKey = role.ROLE_ADMIN) .ThereMustBeAtLeastOneRoleAdmin
  revertIf (members.length = 0 ∧ roleKey = role.TIMELOCK_MULTISIG)
    .ThereMustBeAtLeastOneTimelockMultiSig
  pure
    { roleStore with
      roleMembers := Function.update roleStore.roleMembers roleKey members
      roleCache := Function.update roleStore.roleCache account
        (Function.update (roleStore.roleCache account) roleKey false) }

/-- `grantRole`, called by the given contract. -/
def grantRole (msgSender account : Bytes20) (roleKey : Bytes32) : Result RoleStore := do
  roleStore._validateRole msgSender role.ROLE_ADMIN "ROLE_ADMIN"
  pure (roleStore._grantRole account roleKey)

/-- `revokeRole`, called by the given contract. -/
def revokeRole (msgSender account : Bytes20) (roleKey : Bytes32) : Result RoleStore := do
  roleStore._validateRole msgSender role.ROLE_ADMIN "ROLE_ADMIN"
  roleStore._revokeRole role account roleKey

end RoleStore

-- ---------------------------------------------------------------------------
-- Timelock.sol
-- ---------------------------------------------------------------------------

/-- The storage of the timelock and of the contracts that it calls. -/
structure Timelock (Hash : Type) where
  timelockDelay : Nat
  pendingActions : Hash → Nat
  roleStore : RoleStore
  dataStore : DataStore
  /-- `OracleStore.signers`. -/
  signers : List Bytes20

/-- What does not change between calls. -/
structure TimelockDeployment (Hash : Type) where
  keccak256 : List UInt8 → Hash
  /-- The address of the timelock. -/
  self : Bytes20
  role : Role

/-- Who calls, and when. -/
structure TimelockMsg where
  sender : Bytes20
  timestamp : Nat
  deriving DecidableEq, Repr

namespace Timelock

/-- Five days. -/
def MAX_TIMELOCK_DELAY : Nat := 5 * 24 * 60 * 60

section

variable {Hash : Type} [DecidableEq Hash] (deployment : TimelockDeployment Hash)
  (msg : TimelockMsg)

/-- A call on the storage. -/
abbrev Call (Hash α : Type) := Evm.Tx (Timelock Hash) Errors α

-- ---------------------------------------------------------------------------
-- Action keys
-- ---------------------------------------------------------------------------

def _addOracleSignerActionKey (account : Bytes20) : Hash :=
  deployment.keccak256 (Packed.encodeString "addOracleSigner" ++ Packed.encodeBits 20 account)

def _removeOracleSignerActionKey (account : Bytes20) : Hash :=
  deployment.keccak256 (Packed.encodeString "removeOracleSigner" ++ Packed.encodeBits 20 account)

def _setFeeReceiverActionKey (account : Bytes20) : Hash :=
  deployment.keccak256 (Packed.encodeString "setFeeReceiver" ++ Packed.encodeBits 20 account)

def _grantRoleActionKey (account : Bytes20) (roleKey : Bytes32) : Hash :=
  deployment.keccak256 (Packed.encodeString "grantRole" ++
    (Packed.encodeBits 20 account ++ Packed.encodeBits 32 roleKey))

def _revokeRoleActionKey (account : Bytes20) (roleKey : Bytes32) : Hash :=
  deployment.keccak256 (Packed.encodeString "revokeRole" ++
    (Packed.encodeBits 20 account ++ Packed.encodeBits 32 roleKey))

def _setPriceFeedActionKey (token priceFeed : Bytes20)
    (priceFeedMultiplier priceFeedHeartbeatDuration stablePrice : Bytes32) : Hash :=
  deployment.keccak256 (Packed.encodeString "setPriceFeed" ++
    (Packed.encodeBits 20 token ++ (Packed.encodeBits 20 priceFeed ++
      (Packed.encodeBits 32 priceFeedMultiplier ++
        (Packed.encodeBits 32 priceFeedHeartbeatDuration ++ Packed.encodeBits 32 stablePrice)))))

-- ---------------------------------------------------------------------------
-- Pending actions
-- ---------------------------------------------------------------------------

def onlyTimelockAdmin : Call Hash Unit :=
  Tx.view fun timelock =>
    timelock.roleStore._validateRole msg.sender deployment.role.TIMELOCK_ADMIN "TIMELOCK_ADMIN"

def onlyTimelockMultisig : Call Hash Unit :=
  Tx.view fun timelock => timelock.roleStore._validateRole msg.sender
    deployment.role.TIMELOCK_MULTISIG "TIMELOCK_MULTISIG"

/-- The timelock itself must be a controller to write to the data store and the oracle store. -/
def onlyController : Call Hash Unit :=
  Tx.view fun timelock =>
    timelock.roleStore._validateRole deployment.self deployment.role.CONTROLLER "CONTROLLER"

def setPendingAction (actionKey : Hash) (value : Nat) : Call Hash Unit :=
  Tx.write fun timelock =>
    { timelock with pendingActions := Function.update timelock.pendingActions actionKey value }

def _signalPendingAction (actionKey : Hash) : Call Hash Unit := do
  let pending ← Tx.read (·.pendingActions actionKey)
  revertIf (pending ≠ 0) .ActionAlreadySignalled
  let timelockDelay ← Tx.read (·.timelockDelay)
  setPendingAction actionKey (← add msg.timestamp timelockDelay)

def _validateAction (actionKey : Hash) : Call Hash Unit := do
  let pending ← Tx.read (·.pendingActions actionKey)
  revertIf (pending = 0) .ActionNotSignalled
  revertIf (pending > msg.timestamp) (.SignalTimeNotYetPassed pending)

def _clearAction (actionKey : Hash) : Call Hash Unit := do
  let pending ← Tx.read (·.pendingActions actionKey)
  revertIf (pending = 0) .ActionNotSignalled
  setPendingAction actionKey 0

def _validateAndClearAction (actionKey : Hash) : Call Hash Unit := do
  _validateAction msg actionKey
  _clearAction actionKey

-- ---------------------------------------------------------------------------
-- External functions
-- ---------------------------------------------------------------------------

def setRoleStore (f : RoleStore → Result RoleStore) : Call Hash Unit := do
  let roleStore ← Tx.view fun timelock => f timelock.roleStore
  Tx.write fun timelock => { timelock with roleStore }

def setDataStore (f : DataStore → DataStore) : Call Hash Unit := do
  onlyController deployment
  Tx.write fun timelock => { timelock with dataStore := f timelock.dataStore }

def setSigners (f : List Bytes20 → List Bytes20) : Call Hash Unit := do
  onlyController deployment
  Tx.write fun timelock => { timelock with signers := f timelock.signers }

def revokeRole (account : Bytes20) (roleKey : Bytes32) : Call Hash Unit := do
  onlyTimelockMultisig deployment msg
  setRoleStore (·.revokeRole deployment.role deployment.self account roleKey)

def increaseTimelockDelay (_timelockDelay : Nat) : Call Hash Unit := do
  onlyTimelockAdmin deployment msg
  let timelockDelay ← Tx.read (·.timelockDelay)
  revertIf (_timelockDelay ≤ timelockDelay) (.InvalidTimelockDelay _timelockDelay)
  revertIf (_timelockDelay > MAX_TIMELOCK_DELAY) (.MaxTimelockDelayExceeded _timelockDelay)
  Tx.write fun timelock => { timelock with timelockDelay := _timelockDelay }

def signalAddOracleSigner (account : Bytes20) : Call Hash Unit := do
  onlyTimelockAdmin deployment msg
  revertIf (account = 0) (.InvalidOracleSigner account.toNat)
  _signalPendingAction msg (_addOracleSignerActionKey deployment account)

def addOracleSignerAfterSignal (account : Bytes20) : Call Hash Unit := do
  onlyTimelockAdmin deployment msg
  _validateAndClearAction msg (_addOracleSignerActionKey deployment account)
  setSigners deployment (EnumerableSet.add · account)

def signalRemoveOracleSigner (account : Bytes20) : Call Hash Unit := do
  onlyTimelockAdmin deployment msg
  revertIf (account = 0) (.InvalidOracleSigner account.toNat)
  _signalPendingAction msg (_removeOracleSignerActionKey deployment account)

def removeOracleSignerAfterSignal (account : Bytes20) : Call Hash Unit := do
  onlyTimelockAdmin deployment msg
  _validateAndClearAction msg (_removeOracleSignerActionKey deployment account)
  setSigners deployment (EnumerableSet.remove · account)

def signalSetFeeReceiver (account : Bytes20) : Call Hash Unit := do
  onlyTimelockAdmin deployment msg
  revertIf (account = 0) (.InvalidFeeReceiver account.toNat)
  _signalPendingAction msg (_setFeeReceiverActionKey deployment account)

def setFeeReceiverAfterSignal (account : Bytes20) : Call Hash Unit := do
  onlyTimelockAdmin deployment msg
  _validateAndClearAction msg (_setFeeReceiverActionKey deployment account)
  setDataStore deployment (·.setAddress (.base .FEE_RECEIVER) account.toNat)

def signalGrantRole (account : Bytes20) (roleKey : Bytes32) : Call Hash Unit := do
  onlyTimelockAdmin deployment msg
  _signalPendingAction msg (_grantRoleActionKey deployment account roleKey)

def grantRoleAfterSignal (account : Bytes20) (roleKey : Bytes32) : Call Hash Unit := do
  onlyTimelockAdmin deployment msg
  _validateAndClearAction msg (_grantRoleActionKey deployment account roleKey)
  setRoleStore (·.grantRole deployment.role deployment.self account roleKey)

def signalRevokeRole (account : Bytes20) (roleKey : Bytes32) : Call Hash Unit := do
  onlyTimelockAdmin deployment msg
  _signalPendingAction msg (_revokeRoleActionKey deployment account roleKey)

def revokeRoleAfterSignal (account : Bytes20) (roleKey : Bytes32) : Call Hash Unit := do
  onlyTimelockAdmin deployment msg
  _validateAndClearAction msg (_revokeRoleActionKey deployment account roleKey)
  setRoleStore (·.revokeRole deployment.role deployment.self account roleKey)

def signalSetPriceFeed (token priceFeed : Bytes20)
    (priceFeedMultiplier priceFeedHeartbeatDuration stablePrice : Bytes32) : Call Hash Unit := do
  onlyTimelockAdmin deployment msg
  _signalPendingAction msg (_setPriceFeedActionKey deployment token priceFeed priceFeedMultiplier
    priceFeedHeartbeatDuration stablePrice)

def setPriceFeedAfterSignal (token priceFeed : Bytes20)
    (priceFeedMultiplier priceFeedHeartbeatDuration stablePrice : Bytes32) : Call Hash Unit := do
  onlyTimelockAdmin deployment msg
  _validateAndClearAction msg (_setPriceFeedActionKey deployment token priceFeed
    priceFeedMultiplier priceFeedHeartbeatDuration stablePrice)
  setDataStore deployment (·.setAddress (Keys.priceFeedKey token.toNat) priceFeed.toNat)
  setDataStore deployment
    (·.setUint (Keys.priceFeedMultiplierKey token.toNat) priceFeedMultiplier.toNat)
  setDataStore deployment
    (·.setUint (Keys.priceFeedHeartbeatDurationKey token.toNat) priceFeedHeartbeatDuration.toNat)
  setDataStore deployment (·.setUint (Keys.stablePriceKey token.toNat) stablePrice.toNat)

def cancelAction (actionKey : Hash) : Call Hash Unit := do
  onlyTimelockAdmin deployment msg
  _clearAction actionKey

end

end Timelock

end GmxSynthetics
