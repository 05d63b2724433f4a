import PolyBot.Wallet.Journal

/-!
# The nonce lane

One wallet on one chain prepares one transaction at a time.  The lane reserves a nonce for an
operation, follows it until the transaction is broadcast, and is then ready for the next one, while
the receipt of the first is still to come.  Each step is journaled before the lane takes it.

Every definition below is one method of the lane; `LaneCall` collects them.
-/

namespace PolyBot.Wallet

open Proc AppendLog

inductive NonceLaneState where
  | ready (nextNonce : Nat)
  | reserved (identity : JournalOperationIdentity)
  | signed (identity : JournalOperationIdentity) (transactionHash : B256)
  | broadcast (identity : JournalOperationIdentity) (transactionHash : B256)
  | recoveryRequired (identity : JournalOperationIdentity) (transactionHash : Option B256)
  | untrackedPending (latestNonce pendingNonce : Nat)
  deriving DecidableEq

structure NonceLane where
  chainId : Nat
  wallet : Address
  state : NonceLaneState
  journalScope : Option EvmJournalScope
  deriving DecidableEq

structure WalletCall where
  target : Address
  value : Nat
  calldata : List UInt8
  deriving DecidableEq

/-- The fields of a signed transaction the lane compares. -/
structure SignedTransaction where
  chainId : Nat
  nonce : Nat
  hash : B256
  deriving DecidableEq

/-- The fields of a receipt the lane reads. -/
structure TransactionReceipt where
  transactionHash : B256
  blockNumber : Nat
  status : Nat
  deriving DecidableEq

/-- A lane together with the journal it writes to. -/
structure LaneWorld where
  lane : NonceLane
  journal : TransactionJournal

abbrev LaneProc := Proc LaneWorld String

namespace NonceLane

def hydrate (chainId : Nat) (wallet : Address) (latestNonce pendingNonce : Nat)
    (journal : TransactionJournal) : Except String NonceLane := do
  require (0 < chainId) "nonce lane chain id is zero"
  require (wallet ≠ 0) "nonce lane wallet is zero"
  require (latestNonce ≤ pendingNonce) "latest nonce exceeds pending nonce"
  require (((journal.highestConsumedNonce chainId wallet).all fun consumedNonce =>
      consumedNonce < pendingNonce) = true)
    "pending nonce has not advanced past a journaled mined transaction"
  match journal.recoveryBlockingFor chainId wallet with
  | [] => return ⟨chainId, wallet, .ready pendingNonce, none⟩
  | [operation] => do
    require (operation.intent.identity.nonce ≤ pendingNonce)
      "journal operation nonce is ahead of the RPC pending nonce"
    return ⟨chainId, wallet,
      .recoveryRequired operation.intent.identity operation.status.transactionHash, none⟩
  | _ => .error "nonce lane has multiple recovery-blocking journal operations"

/-- A journal procedure run from the lane. -/
def onJournal {α : Type} (x : TransactionProc α) : LaneProc α :=
  zoom LaneWorld.journal (fun journal world => { world with journal := journal }) x

def setState (state : NonceLaneState) : LaneProc Unit :=
  modify fun world => { world with lane := { world.lane with state := state } }

def setJournalScope (scope : EvmJournalScope) : LaneProc Unit := do
  lift scope.validate
  let world ← get
  match world.lane.state with
  | .ready _ => set { world with lane := { world.lane with journalScope := some scope } }
  | _ => throw "cannot change EVM journal scope while an operation is active"

def reserveWithNonce (keccak256 : List UInt8 → B256) (io : Io)
    (operationId purpose : String) (call : WalletCall) (nonce : Nat) :
    LaneProc JournalOperationIdentity := do
  let world ← get
  match world.lane.state with
  | .ready nextNonce => do
    ensure (nextNonce ≤ nonce) "process nonce is behind the local nonce lane"
    let identity : JournalOperationIdentity :=
      ⟨operationId, world.lane.chainId, world.lane.wallet, nonce, world.lane.journalScope⟩
    onJournal (TransactionJournal.recordIntent io
      ⟨identity, purpose, call.target, call.value, keccak256 call.calldata⟩)
    setState (.reserved identity)
    return identity
  | _ => throw "nonce lane is not ready for a new operation"

def reserve (keccak256 : List UInt8 → B256) (io : Io) (operationId purpose : String)
    (call : WalletCall) : LaneProc JournalOperationIdentity := do
  let world ← get
  match world.lane.state with
  | .ready nextNonce => reserveWithNonce keccak256 io operationId purpose call nextNonce
  | _ => throw "nonce lane is not ready for a new operation"

def recordSigned (io : Io) (transaction : SignedTransaction) : LaneProc Unit := do
  let world ← get
  match world.lane.state with
  | .reserved identity => do
    ensure (transaction.chainId = identity.chainId)
      "signed transaction chain does not match nonce reservation"
    ensure (transaction.nonce = identity.nonce)
      "signed transaction nonce does not match nonce reservation"
    onJournal (TransactionJournal.recordSigned io identity transaction.hash)
    setState (.signed identity transaction.hash)
  | _ => throw "nonce lane has no reserved operation to sign"

def recordBroadcast (io : Io) (hash : B256) : LaneProc Unit := do
  let world ← get
  match world.lane.state with
  | .signed identity signedHash => do
    ensure (hash = signedHash) "broadcast hash does not match signed transaction"
    onJournal (TransactionJournal.recordBroadcast io identity hash)
    let nextNonce ← orFail (checkedAdd 64 identity.nonce 1) "nonce lane overflow after broadcast"
    setState (.ready nextNonce)
  | _ => throw "nonce lane has no signed operation to broadcast"

def recordUnknownOutcome (io : Io) (reason : UnknownOutcomeReason) : LaneProc Unit := do
  let world ← get
  match world.lane.state with
  | .signed identity hash | .broadcast identity hash => do
    onJournal (TransactionJournal.recordUnknownOutcome io identity hash reason)
    setState (.recoveryRequired identity (some hash))
  | _ => throw "nonce lane has no transaction with an unknown outcome"

/-- The operation a receipt is recorded for, and the transaction hash it must have.  A lane that
holds no signed transaction looks the receipt's hash up in the whole journal. -/
def receiptTarget (world : LaneWorld) (receipt : TransactionReceipt) :
    Option (JournalOperationIdentity × B256) :=
  match world.lane.state with
  | .signed identity hash | .broadcast identity hash | .recoveryRequired identity (some hash) =>
    some (identity, hash)
  | _ =>
    (world.journal.operationByTransactionHash receipt.transactionHash).map fun operation =>
      (operation.intent.identity, receipt.transactionHash)

/-- The state of a lane after a receipt, whatever it held before. -/
def afterReceipt (nextNonce : Nat) : NonceLaneState → NonceLaneState
  | .ready current => .ready (max current nextNonce)
  | _ => .ready nextNonce

def recordReceipt (io : Io) (receipt : TransactionReceipt) : LaneProc Unit := do
  let world ← get
  let (identity, expectedHash) ← orFail (receiptTarget world receipt)
    "nonce lane has no journaled transaction to reconcile"
  ensure (receipt.transactionHash = expectedHash)
    "receipt hash does not match nonce lane transaction"
  ensure (receipt.status ≤ 1) "receipt status is neither success nor revert"
  onJournal (TransactionJournal.recordMined io identity receipt.transactionHash
    receipt.blockNumber (receipt.status == 1))
  let nextNonce ← orFail (checkedAdd 64 identity.nonce 1)
    "nonce lane overflow after mined transaction"
  setState (afterReceipt nextNonce world.lane.state)

def cancelBeforeSigning (io : Io) : LaneProc Unit := do
  let world ← get
  match world.lane.state with
  | .reserved identity => do
    onJournal (TransactionJournal.recordCancelledBeforeSigning io identity)
    setState (.ready identity.nonce)
  | _ => throw "only a reserved unsigned nonce can be cancelled"

def recordRejectedBeforeBroadcast (io : Io) (hash : B256) : LaneProc Unit := do
  let world ← get
  match world.lane.state with
  | .signed identity expected | .recoveryRequired identity (some expected) => do
    ensure (expected = hash) "pre-broadcast rejection hash does not match the signed transaction"
    onJournal (TransactionJournal.recordRejectedBeforeBroadcast io identity hash)
    setState (.ready identity.nonce)
  | _ => throw "pre-broadcast rejection requires a signed or recovery-blocked nonce"

def recordConsumedNonceRejection (io : Io) (hash : B256) (nextNonce : Nat) : LaneProc Unit := do
  let world ← get
  match world.lane.state with
  | .recoveryRequired identity (some expected) => do
    ensure (expected = hash)
      "consumed-nonce rejection hash does not match the signed transaction"
    ensure (identity.nonce < nextNonce)
      "consumed-nonce recovery did not advance past the rejected nonce"
    onJournal (TransactionJournal.recordRejectedBeforeBroadcast io identity hash)
    setState (.ready nextNonce)
  | _ => throw "consumed-nonce rejection requires a recovery-blocked signed transaction"

end NonceLane

/-- One call of a lane method, with the environment its journal write meets. -/
inductive LaneCall where
  | setJournalScope (scope : EvmJournalScope)
  | reserve (io : Io) (operationId purpose : String) (call : WalletCall)
  | reserveWithNonce (io : Io) (operationId purpose : String) (call : WalletCall)
      (nonce : Nat)
  | recordSigned (io : Io) (transaction : SignedTransaction)
  | recordBroadcast (io : Io) (hash : B256)
  | recordUnknownOutcome (io : Io) (reason : UnknownOutcomeReason)
  | recordReceipt (io : Io) (receipt : TransactionReceipt)
  | cancelBeforeSigning (io : Io)
  | recordRejectedBeforeBroadcast (io : Io) (hash : B256)
  | recordConsumedNonceRejection (io : Io) (hash : B256) (nextNonce : Nat)
  deriving DecidableEq

/-- The method a call runs; the identity a reservation returns is the one the lane then holds. -/
def LaneCall.run (keccak256 : List UInt8 → B256) : LaneCall → LaneProc Unit
  | .setJournalScope scope => NonceLane.setJournalScope scope
  | .reserve io operationId purpose call => do
    let _ ← NonceLane.reserve keccak256 io operationId purpose call
  | .reserveWithNonce io operationId purpose call nonce => do
    let _ ← NonceLane.reserveWithNonce keccak256 io operationId purpose call nonce
  | .recordSigned io transaction => NonceLane.recordSigned io transaction
  | .recordBroadcast io hash => NonceLane.recordBroadcast io hash
  | .recordUnknownOutcome io reason => NonceLane.recordUnknownOutcome io reason
  | .recordReceipt io receipt => NonceLane.recordReceipt io receipt
  | .cancelBeforeSigning io => NonceLane.cancelBeforeSigning io
  | .recordRejectedBeforeBroadcast io hash => NonceLane.recordRejectedBeforeBroadcast io hash
  | .recordConsumedNonceRejection io hash nextNonce =>
    NonceLane.recordConsumedNonceRejection io hash nextNonce

/-- The lane and its journal after a call, whether it returned or failed. -/
def LaneWorld.after (keccak256 : List UInt8 → B256) (world : LaneWorld) (call : LaneCall) :
    LaneWorld :=
  (call.run keccak256).final world

end PolyBot.Wallet
