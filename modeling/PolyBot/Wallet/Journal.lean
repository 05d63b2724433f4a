import PolyBot.Lib.AppendLog
import PolyBot.Lib.KeyedMap
import PolyBot.Primitives

/-!
# The transaction journal

The durable record of what each operation of a wallet has done: its intent, the transaction it
signed, and how that transaction ended.  An operation is stored under its own id, and one record
moves one operation along the transitions of `JournalStatus.Transition`.

* `applyPayload_cases`: an accepted record either opens an operation or moves one.
* `mem_recoveryBlockingFor`: the operations that stand in the way of a new reservation.
-/

namespace PolyBot.Wallet

/-- The owner of an operation: network, wallet and strategy. -/
structure EvmJournalScope where
  schemaVersion : Nat
  networkId : String
  walletId : String
  strategyId : String
  deriving DecidableEq

/-- `EvmJournalScope::SCHEMA_VERSION`. -/
def scopeSchemaVersion : Nat := 2

def EvmJournalScope.validate (scope : EvmJournalScope) : Except String Unit := do
  require (scope.schemaVersion = scopeSchemaVersion)
    "unsupported EVM journal scope schema version"
  require ((!isBlank scope.networkId && !isBlank scope.walletId && !isBlank scope.strategyId) = true)
    "EVM journal scope is incomplete"

structure JournalOperationIdentity where
  operationId : String
  chainId : Nat
  wallet : Address
  nonce : Nat
  scope : Option EvmJournalScope
  deriving DecidableEq

structure JournalIntent where
  identity : JournalOperationIdentity
  purpose : String
  target : Address
  nativeValue : Nat
  calldataHash : B256
  deriving DecidableEq

inductive UnknownOutcomeReason where
  | broadcastTransport
  | broadcastRejected
  | nonceTooLow
  | confirmationTimeout
  | processInterrupted
  deriving DecidableEq

inductive JournalStatus where
  | intentRecorded
  | signed (transactionHash : B256)
  | broadcast (transactionHash : B256)
  | outcomeUnknown (transactionHash : B256) (reason : UnknownOutcomeReason)
  | minedSuccess (transactionHash : B256) (blockNumber : Nat)
  | minedReverted (transactionHash : B256) (blockNumber : Nat)
  | rejectedBeforeBroadcast (transactionHash : B256)
  | cancelledBeforeSigning
  deriving DecidableEq

namespace JournalStatus

def transactionHash : JournalStatus → Option B256
  | signed hash | broadcast hash | outcomeUnknown hash _ | rejectedBeforeBroadcast hash
  | minedSuccess hash _ | minedReverted hash _ => some hash
  | intentRecorded | cancelledBeforeSigning => none

/-- The statuses `recovery_blocking_for` selects. -/
def recoveryBlocking : JournalStatus → Bool
  | intentRecorded | signed _ | outcomeUnknown _ _ => true
  | _ => false

/-- The statuses a receipt can end. -/
def awaitsReceipt : JournalStatus → Bool
  | signed _ | broadcast _ | outcomeUnknown _ _ => true
  | _ => false

/-- The statuses that give their nonce back. -/
def releasesNonce : JournalStatus → Bool
  | cancelledBeforeSigning | rejectedBeforeBroadcast _ => true
  | _ => false

def mined : JournalStatus → Bool
  | minedSuccess _ _ | minedReverted _ _ => true
  | _ => false

end JournalStatus

structure JournalOperation where
  intent : JournalIntent
  status : JournalStatus
  deriving DecidableEq

/-- The event of a record.  Addresses and hashes stand for the hexadecimal texts they are written
as, which parse back to them. -/
inductive WireEvent where
  | intentRecorded (purpose : String) (target : Address) (nativeValue : Nat) (calldataHash : B256)
  | signed (transactionHash : B256)
  | broadcast (transactionHash : B256)
  | outcomeUnknown (transactionHash : B256) (reason : UnknownOutcomeReason)
  | minedSuccess (transactionHash : B256) (blockNumber : Nat)
  | minedReverted (transactionHash : B256) (blockNumber : Nat)
  | rejectedBeforeBroadcast (transactionHash : B256)
  | cancelledBeforeSigning
  deriving DecidableEq

structure WirePayload where
  sequence : Nat
  recordedAtUnixMs : Nat
  identity : JournalOperationIdentity
  event : WireEvent
  deriving DecidableEq

/-- The id an operation is stored under. -/
def JournalOperation.operationId (operation : JournalOperation) : String :=
  operation.intent.identity.operationId

/-- The operations of a journal, in the order of their ids. -/
abbrev Operations := KeyedMap JournalOperation.operationId

def maxOperationIdBytes : Nat := 160
def maxPurposeBytes : Nat := 96

def validateIdentifier (name value : String) (maximum : Nat) : Except String Unit := do
  require (value ≠ "") s!"journal {name} is empty"
  require (value.utf8ByteSize ≤ maximum) s!"journal {name} is too long"
  require (hasOnly ['-', '_', ':', '.'] value = true) s!"journal {name} contains invalid characters"

variable (io : AppendLog.Io) (identity : JournalOperationIdentity)

def validateIdentity : Except String Unit := do
  validateIdentifier "operation id" identity.operationId maxOperationIdBytes
  require (0 < identity.chainId) "journal chain id is zero"
  require (identity.wallet ≠ 0) "journal wallet is zero"
  match identity.scope with
  | some scope => scope.validate
  | none => .ok ()

def validateIntent (intent : JournalIntent) : Except String Unit := do
  validateIdentity intent.identity
  validateIdentifier "purpose" intent.purpose maxPurposeBytes
  require (intent.target ≠ 0) "journal target is zero"

def ensureHashTransition (previous : JournalStatus) (hash : B256) (transition : String) :
    Except String Unit :=
  require (previous.transactionHash = some hash)
    s!"journal {transition} transaction hash changed"

def minedStatus (previous : JournalStatus) (hash : B256) (blockNumber : Nat) (success : Bool) :
    Except String JournalStatus := do
  require (0 < blockNumber) "journal mined block number is zero"
  ensureHashTransition previous hash "mined"
  require (previous.awaitsReceipt = true) "journal mined transition requires a transaction hash"
  return if success then .minedSuccess hash blockNumber else .minedReverted hash blockNumber

/-- The status an event moves an operation to.  An intent never reaches this point. -/
def applyTransition (previous : JournalStatus) : WireEvent → Except String JournalStatus
  | .signed hash => do
    require (previous = .intentRecorded) "journal signed transition requires a recorded intent"
    return .signed hash
  | .broadcast hash => do
    ensureHashTransition previous hash "broadcast"
    require (previous = .signed hash) "journal broadcast transition requires a signed transaction"
    return .broadcast hash
  | .outcomeUnknown hash reason => do
    ensureHashTransition previous hash "unknown outcome"
    require (previous = .signed hash ∨ previous = .broadcast hash)
      "journal unknown outcome requires a signed or broadcast transaction"
    return .outcomeUnknown hash reason
  | .minedSuccess hash blockNumber => minedStatus previous hash blockNumber true
  | .minedReverted hash blockNumber => minedStatus previous hash blockNumber false
  | .rejectedBeforeBroadcast hash => do
    ensureHashTransition previous hash "pre-broadcast rejection"
    require (previous = .signed hash ∨ previous = .outcomeUnknown hash .broadcastRejected ∨
        previous = .outcomeUnknown hash .nonceTooLow)
      "journal pre-broadcast rejection requires a signed transaction or reviewed RPC rejection"
    return .rejectedBeforeBroadcast hash
  | .cancelledBeforeSigning => do
    require (previous = .intentRecorded) "only an unsigned journal intent can be cancelled"
    return .cancelledBeforeSigning
  | .intentRecorded .. => .error "intent handled before transition"

/-- The operations that keep the nonce of `identity` from being used again. -/
def ownsNonce (operation : JournalOperation) : Bool :=
  operation.intent.identity.chainId = identity.chainId &&
    operation.intent.identity.wallet = identity.wallet &&
    operation.intent.identity.nonce = identity.nonce && !operation.status.releasesNonce

def applyPayload (operations : Operations) (payload : WirePayload) : Except String Operations := do
  require (0 < payload.recordedAtUnixMs) "journal timestamp is zero"
  validateIdentity payload.identity
  match payload.event with
  | .intentRecorded purpose target nativeValue calldataHash => do
    require (operations.get? payload.identity.operationId = none)
      "journal operation id already exists"
    require (operations.values.any (ownsNonce payload.identity) = false)
      "journal nonce is already owned by another operation"
    let intent : JournalIntent := ⟨payload.identity, purpose, target, nativeValue, calldataHash⟩
    validateIntent intent
    return operations.put ⟨intent, .intentRecorded⟩
  | event =>
    match operations.get? payload.identity.operationId with
    | none => .error "journal event has no matching intent"
    | some operation => do
      require (operation.intent.identity = payload.identity) "journal operation identity changed"
      let status ← applyTransition operation.status event
      return operations.put { operation with status := status }

/-- The journal's records, limits and error texts. -/
def journalFormat : AppendLog.Format Operations WirePayload String where
  init := KeyedMap.empty
  apply := applyPayload
  stored := id
  sequence := WirePayload.sequence
  lineLimit := 64 * 1024
  poisonedError := "transaction journal is poisoned"
  clockError := "system clock is before Unix epoch"
  encodeError := "failed to encode transaction journal record"
  tooLargeError := "transaction journal record exceeds size limit"
  writeError := "failed to durably append transaction journal record"
  overflowError := "transaction journal sequence overflow"
  sequenceError := fun found expected =>
    s!"transaction journal sequence mismatch: found {found}, expected {expected}"
  tornError := "transaction journal ends with a partial record"

abbrev TransactionJournal := AppendLog Operations WirePayload

abbrev TransactionProc := Proc TransactionJournal String

namespace TransactionJournal

/-- `TransactionJournal::open` on the records of a file. -/
def openFile (file : AppendLog.File WirePayload) : Except String TransactionJournal :=
  AppendLog.load journalFormat file

variable (journal : TransactionJournal)

def operation (operationId : String) : Option JournalOperation :=
  journal.state.get? operationId

/-- Whether an operation of the wallet stands in the way of a new reservation. -/
def blocks (chainId : Nat) (wallet : Address) (operation : JournalOperation) : Bool :=
  operation.intent.identity.chainId = chainId && operation.intent.identity.wallet = wallet &&
    operation.status.recoveryBlocking

def recoveryBlockingFor (chainId : Nat) (wallet : Address) : List JournalOperation :=
  journal.state.values.filter (blocks chainId wallet)

def operationByTransactionHash (hash : B256) : Option JournalOperation :=
  journal.state.values.find? fun operation => operation.status.transactionHash = some hash

def highestConsumedNonce (chainId : Nat) (wallet : Address) : Option Nat :=
  ((journal.state.values.filter fun operation =>
    operation.intent.identity.chainId = chainId && operation.intent.identity.wallet = wallet &&
      operation.status.mined).map fun operation => operation.intent.identity.nonce).max?

def append (io : AppendLog.Io) (identity : JournalOperationIdentity) (event : WireEvent) :
    TransactionProc Unit :=
  AppendLog.append journalFormat io (validateIdentity identity) fun sequence now =>
    ⟨sequence, now, identity, event⟩

def recordIntent (intent : JournalIntent) : TransactionProc Unit := do
  Proc.lift (validateIntent intent)
  append io intent.identity
    (.intentRecorded intent.purpose intent.target intent.nativeValue intent.calldataHash)

def recordSigned (hash : B256) : TransactionProc Unit :=
  append io identity (.signed hash)

def recordBroadcast (hash : B256) : TransactionProc Unit :=
  append io identity (.broadcast hash)

def recordUnknownOutcome (hash : B256) (reason : UnknownOutcomeReason) : TransactionProc Unit :=
  append io identity (.outcomeUnknown hash reason)

def recordMined (hash : B256) (blockNumber : Nat) (success : Bool) : TransactionProc Unit :=
  append io identity
    (if success then .minedSuccess hash blockNumber else .minedReverted hash blockNumber)

def recordCancelledBeforeSigning : TransactionProc Unit :=
  append io identity .cancelledBeforeSigning

def recordRejectedBeforeBroadcast (hash : B256) : TransactionProc Unit :=
  append io identity (.rejectedBeforeBroadcast hash)

end TransactionJournal

/-! ## What an accepted record does -/

/-- One move of an operation along its life. -/
inductive JournalStatus.Transition : JournalStatus → WireEvent → JournalStatus → Prop
  | signed (hash) : Transition .intentRecorded (.signed hash) (.signed hash)
  | broadcast (hash) : Transition (.signed hash) (.broadcast hash) (.broadcast hash)
  | outcomeUnknown {previous hash} (reason)
      (sent : previous = .signed hash ∨ previous = .broadcast hash) :
      Transition previous (.outcomeUnknown hash reason) (.outcomeUnknown hash reason)
  | minedSuccess {previous hash blockNumber}
      (known : previous.transactionHash = some hash)
      (awaits : previous.awaitsReceipt = true) (positive : 0 < blockNumber) :
      Transition previous (.minedSuccess hash blockNumber) (.minedSuccess hash blockNumber)
  | minedReverted {previous hash blockNumber}
      (known : previous.transactionHash = some hash)
      (awaits : previous.awaitsReceipt = true) (positive : 0 < blockNumber) :
      Transition previous (.minedReverted hash blockNumber) (.minedReverted hash blockNumber)
  | rejectedBeforeBroadcast {previous hash}
      (refusable : previous = .signed hash ∨ previous = .outcomeUnknown hash .broadcastRejected ∨
        previous = .outcomeUnknown hash .nonceTooLow) :
      Transition previous (.rejectedBeforeBroadcast hash) (.rejectedBeforeBroadcast hash)
  | cancelledBeforeSigning :
      Transition .intentRecorded .cancelledBeforeSigning .cancelledBeforeSigning

open JournalStatus (Transition)

variable {event : WireEvent} {next previous : JournalStatus}

theorem JournalStatus.Transition.event_ne_intent (move : Transition previous event next)
    (purpose : String) (target : Address) (nativeValue : Nat) (calldataHash : B256) :
    event ≠ .intentRecorded purpose target nativeValue calldataHash := by
  rintro rfl
  cases move

/-- `applyTransition` accepts the moves of `Transition` and no others. -/
theorem applyTransition_eq_ok :
    applyTransition previous event = .ok next ↔ Transition previous event next := by
  constructor
  · intro accepted
    cases event with
    | intentRecorded => simp [applyTransition] at accepted
    | signed hash =>
      simp [applyTransition] at accepted
      obtain ⟨rfl, rfl⟩ := accepted
      exact .signed hash
    | broadcast hash =>
      simp [applyTransition, ensureHashTransition] at accepted
      obtain ⟨_, rfl, rfl⟩ := accepted
      exact .broadcast hash
    | outcomeUnknown hash reason =>
      simp [applyTransition, ensureHashTransition] at accepted
      obtain ⟨_, sent, rfl⟩ := accepted
      exact .outcomeUnknown reason sent
    | minedSuccess hash blockNumber =>
      simp [applyTransition, minedStatus, ensureHashTransition] at accepted
      obtain ⟨positive, known, awaits, rfl⟩ := accepted
      exact .minedSuccess known awaits positive
    | minedReverted hash blockNumber =>
      simp [applyTransition, minedStatus, ensureHashTransition] at accepted
      obtain ⟨positive, known, awaits, rfl⟩ := accepted
      exact .minedReverted known awaits positive
    | rejectedBeforeBroadcast hash =>
      simp [applyTransition, ensureHashTransition] at accepted
      obtain ⟨_, refusable, rfl⟩ := accepted
      exact .rejectedBeforeBroadcast refusable
    | cancelledBeforeSigning =>
      simp [applyTransition] at accepted
      obtain ⟨rfl, rfl⟩ := accepted
      exact .cancelledBeforeSigning
  · intro move
    cases move with
    | signed | cancelledBeforeSigning => rfl
    | broadcast hash =>
      simp [applyTransition, ensureHashTransition, JournalStatus.transactionHash]
    | outcomeUnknown reason sent =>
      rcases sent with rfl | rfl <;>
        simp [applyTransition, ensureHashTransition, JournalStatus.transactionHash]
    | minedSuccess known awaits positive | minedReverted known awaits positive =>
      simp [applyTransition, minedStatus, ensureHashTransition, known, awaits, positive]
    | rejectedBeforeBroadcast refusable =>
      rcases refusable with rfl | rfl | rfl <;>
        simp [applyTransition, ensureHashTransition, JournalStatus.transactionHash]

/-- An accepted record opens an operation under a fresh id, or moves the operation that carries the
record's identity. -/
theorem applyPayload_cases {operations next : Operations} {payload : WirePayload}
    (accepted : applyPayload operations payload = .ok next) :
    (∃ intent : JournalIntent,
      payload.event = .intentRecorded intent.purpose intent.target intent.nativeValue
        intent.calldataHash ∧
      intent.identity = payload.identity ∧
      operations.get? payload.identity.operationId = none ∧
      (∀ op ∈ operations.values, ownsNonce payload.identity op = false) ∧
      next = operations.put ⟨intent, .intentRecorded⟩) ∨
    ∃ op status,
      operations.get? payload.identity.operationId = some op ∧
      op.intent.identity = payload.identity ∧
      Transition op.status payload.event status ∧
      next = operations.put { op with status := status } := by
  obtain ⟨sequence, now, identity, event⟩ := payload
  simp only [applyPayload, bind_eq_ok, require_eq_ok] at accepted
  obtain ⟨_, _, _, _, accepted⟩ := accepted
  -- only the event of an intent opens an operation; all others go through `applyTransition`
  cases event with
  | intentRecorded purpose target nativeValue calldataHash =>
    simp only [bind_eq_ok, require_eq_ok, pure_eq_ok] at accepted
    obtain ⟨_, fresh, _, unowned, _, _, rfl⟩ := accepted
    left
    refine ⟨⟨identity, purpose, target, nativeValue, calldataHash⟩, rfl, rfl, fresh, ?_, rfl⟩
    simpa using unowned
  | _ =>
    right
    cases found : operations.get? identity.operationId with
    | none => simp [found] at accepted
    | some op =>
      simp only [found, bind_eq_ok, require_eq_ok, pure_eq_ok] at accepted
      obtain ⟨_, same, status, moved, rfl⟩ := accepted
      exact ⟨op, status, rfl, same, applyTransition_eq_ok.mp moved, rfl⟩

namespace TransactionJournal

variable {journal : TransactionJournal} {op : JournalOperation}

theorem mem_recoveryBlockingFor {chainId : Nat} {wallet : Address} :
    op ∈ journal.recoveryBlockingFor chainId wallet ↔
      op ∈ journal.state.values ∧ blocks chainId wallet op = true := by
  simp [recoveryBlockingFor]

end TransactionJournal

end PolyBot.Wallet
