import PolyBot.Lib.AppendLog
import PolyBot.Lib.KeyedMap
import PolyBot.Rebalance.Operation

/-!
# The rebalance journal

The journal keeps the last snapshot of every operation, the time it was recorded first and what it
needs to let a quarantined operation go on.  A snapshot is checked against a copy of the operations
and written before the copy becomes the state.

What is noted about quarantines is updated after the write, and so is the sequence number.  Each of
these updates can still fail, with the record already in the file.

* `wp_append`: what one append can do.
* `wp_perform`: what one public call can do; a call that is not refused appends one operation, and
  `Cause` says which.
* `Journal.Step`, `Journal.Run`: calls and restarts.
-/

namespace PolyBot.Rebalance

open Proc AppendLog RebalanceExecutionOperation Std

/-- What is noted about the quarantines and retries of the operations. -/
structure QuarantineNotes where
  progressBeforeQuarantine : TreeMap String RebalanceExecutionProgress
  quarantineReopenCounts : TreeMap String Nat
  unindexedMasterTransferReopenCounts : TreeMap String Nat
  travelRuleOwnershipReopenCounts : TreeMap String Nat

/-- One record of the file. -/
structure WirePayload where
  sequence : Nat
  recordedAtUnixMs : Nat
  operation : RebalanceExecutionOperation
  deriving DecidableEq

/-- What is in memory and is built from the records. -/
structure Memory where
  operations : KeyedMap operationId
  operationStartedAtUnixMs : TreeMap String Nat
  notes : QuarantineNotes
  nextSequence : Nat

structure RebalanceExecutionJournal extends Memory where
  poisoned : Bool
  file : File WirePayload

def Memory.empty : Memory where
  operations := .empty
  operationStartedAtUnixMs := ∅
  notes := ⟨∅, ∅, ∅, ∅⟩
  nextSequence := 0

/-! ## Snapshots -/

/-- A snapshot continues the operation of its id or begins one. -/
def applySnapshot (operations : KeyedMap operationId)
    (operation : RebalanceExecutionOperation) (origin : TransitionOrigin) :
    Except String (KeyedMap operationId) := do
  validateOperation operation
  match operations.get? operation.operationId with
  | some previous =>
    require (previous.intent = operation.intent) "rebalance operation intent changed"
    validateTransition operation.intent previous.progress operation.progress origin
  | none =>
    require (operation.progress = .intentRecorded)
      "rebalance operation does not begin with an intent"
  return operations.put operation

/-- Counts one more reopening of an operation in a `u8`. -/
def countReopen (counts : TreeMap String Nat) (operationId error : String) :
    Except String (TreeMap String Nat) := do
  let count ← orError (checkedAdd 8 (counts.getD operationId 0) 1) error
  return counts.insert operationId count

/-- What a step of an operation adds to the notes. -/
def noteProgress (operationId : String) (previous next : RebalanceExecutionProgress) :
    Proc QuarantineNotes String Unit := do
  if next.isQuarantined = true then
    modify fun notes => { notes with
      progressBeforeQuarantine := notes.progressBeforeQuarantine.insert operationId previous }
  else if previous.isQuarantined = true then
    let notes ← get
    let counts ← lift (countReopen notes.quarantineReopenCounts operationId
      "rebalance quarantine reopen count overflow")
    set { notes with quarantineReopenCounts := counts }
  if retryableTravelRuleOwnershipReopen previous next = true then
    let notes ← get
    let counts ← lift (countReopen notes.travelRuleOwnershipReopenCounts operationId
      "Travel Rule ownership rejection reopen count overflow")
    set { notes with travelRuleOwnershipReopenCounts := counts }
  if retryableUnindexedMasterTransferReopen previous next = true then
    let notes ← get
    let counts ← lift (countReopen notes.unindexedMasterTransferReopenCounts operationId
      "unindexed master-transfer reopen count overflow")
    set { notes with unindexedMasterTransferReopenCounts := counts }

/-- Only a snapshot of a known operation is a step. -/
def noteStep (operationId : String) (previous : Option RebalanceExecutionOperation)
    (next : RebalanceExecutionProgress) : Proc QuarantineNotes String Unit :=
  match previous with
  | some operation => noteProgress operationId operation.progress next
  | none => pure ()

/-! ## Opening the file -/

/-- One record of the file read back. -/
def loadStep (memory : Memory) (payload : WirePayload) : Except String Memory := do
  require (payload.sequence = memory.nextSequence) "rebalance executor journal sequence mismatch"
  let operationId := payload.operation.operationId
  let (noted, notes) := (noteStep operationId (memory.operations.get? operationId)
    payload.operation.progress).exec memory.notes
  noted
  let operations ← applySnapshot memory.operations payload.operation .journalReplay
  let sequence ← orError (checkedAdd 64 memory.nextSequence 1)
    "rebalance executor journal sequence overflow"
  return {
    operations := operations
    operationStartedAtUnixMs :=
      memory.operationStartedAtUnixMs.insertIfNew operationId payload.recordedAtUnixMs
    notes := notes
    nextSequence := sequence }

def replay (records : List WirePayload) : Except String Memory :=
  records.foldlM loadStep .empty

/-- `RebalanceExecutionJournal::open`. -/
def openFile (file : File WirePayload) : Except String RebalanceExecutionJournal := do
  let memory ← replay file.records
  require (file.torn = false) "rebalance executor journal ends with a partial record"
  return { memory with poisoned := false, file := file }

/-! ## Appending -/

abbrev JournalProc := Proc RebalanceExecutionJournal String

/-- `MAX_LINE_BYTES`. -/
def maxLineBytes : Nat := 64 * 1024

/-- What is left to do once the record is in the file. -/
def commit (operation : RebalanceExecutionOperation)
    (previous : Option RebalanceExecutionOperation) (now : Nat) : JournalProc Unit := do
  zoom (fun journal => journal.notes) (fun notes journal => { journal with notes := notes })
    (noteStep operation.operationId previous operation.progress)
  modify fun journal => { journal with
    operationStartedAtUnixMs :=
      journal.operationStartedAtUnixMs.insertIfNew operation.operationId now }
  let journal ← get
  let sequence ← orFail (checkedAdd 64 journal.nextSequence 1)
    "rebalance executor journal sequence overflow"
  set { journal with nextSequence := sequence }

def append (io : Io) (operation : RebalanceExecutionOperation) : JournalProc Unit := do
  let journal ← get
  ensure (journal.poisoned = false) "rebalance executor journal is poisoned"
  lift (validateOperation operation)
  let now ← orFail io.clock "system clock is before Unix epoch"
  let payload : WirePayload :=
    { sequence := journal.nextSequence, recordedAtUnixMs := now, operation := operation }
  let operations ← lift (applySnapshot journal.operations operation .liveAppend)
  let encodedLen ← orFail io.encodedLen "failed to encode rebalance executor journal record"
  ensure (encodedLen < maxLineBytes) "rebalance executor journal record is too large"
  let file := journal.file.after payload io.write
  if io.write = .synced then
    set { journal with operations := operations, file := file }
    commit operation (journal.operations.get? operation.operationId) now
  else
    set { journal with poisoned := true, file := file }
    throw "failed to durably append rebalance executor journal record"

/-! ## The public calls -/

namespace RebalanceExecutionJournal

variable (journal : RebalanceExecutionJournal)

/-- The operations that are under way. -/
def active : List RebalanceExecutionOperation :=
  journal.operations.values.filter fun operation => !operation.progress.terminal

def activeOperation : Except String (Option RebalanceExecutionOperation) :=
  match journal.active with
  | [] => .ok none
  | [operation] => .ok (some operation)
  | _ :: _ :: _ => .error "multiple active rebalance operations in journal"

def progressBefore? (operationId : String) : Option RebalanceExecutionProgress :=
  journal.notes.progressBeforeQuarantine[operationId]?

end RebalanceExecutionJournal

/-- The 64 digits of a digest. -/
def hexDigits (digest : B256) : List Char :=
  (List.range 64).map fun i => Nat.digitChar (digest.toNat / 16 ^ (63 - i) % 16)

/-- The id of an operation, from the digits of its fingerprint. -/
def operationIdOf (sequence : Nat) (fingerprint : List Char) : String :=
  "rebalance-" ++ sequence.repr ++ "-" ++ String.ofList (fingerprint.take 16)

def withdrawOrderIdOf (fingerprint : List Char) : String :=
  "rb" ++ String.ofList (fingerprint.take 30)

def networkId (request : RebalanceExecutionRequest) : String :=
  match request.action.route with
  | .direct _ chainId => "chain:" ++ chainId.repr
  | .across _ bridgeChainId walletChainId =>
    "chain:" ++ (if request.authority = .lineaFullLive then walletChainId else bridgeChainId).repr

/-- The JSON object that is digested for a request. -/
structure FingerprintFields where
  token : String
  authority : RebalanceExecutionAuthority
  decimals : Nat
  contract : Address
  wallet : Address
  direction : Direction
  route : Route
  amount : Nat
  binanceBefore : Nat
  walletBefore : Nat
  revalidationStartBalance : Nat
  maximumFee : Option Nat
  approvalSessionId : Option String

def fingerprintFields (request : RebalanceExecutionRequest) : FingerprintFields :=
  ⟨request.tokenSymbol, request.authority, request.tokenDecimals, request.tokenContract,
    request.walletOwner, request.action.direction, request.action.route, request.action.amount,
    request.binanceBalanceBefore, request.walletBalanceBefore, request.revalidationStartBalance,
    request.maximumFee, request.approvalSessionId⟩

section Calls

-- the SHA-256 digest of the object's text
variable (digest : FingerprintFields → B256)

def requestFingerprint (request : RebalanceExecutionRequest) : List Char :=
  hexDigits (digest (fingerprintFields request))

/-- The operation that a request is recorded as. -/
def reservation (sequence : Nat) (request : RebalanceExecutionRequest) :
    RebalanceExecutionOperation where
  intent := {
    scope := some {
      schemaVersion := 2
      accountId := "binance:trading-subaccount"
      networkId := networkId request
      strategyId := request.authority.strategyId }
    operationId := operationIdOf sequence (requestFingerprint digest request)
    fingerprint := String.ofList (requestFingerprint digest request)
    withdrawOrderId := withdrawOrderIdOf (requestFingerprint digest request)
    tokenSymbol := request.tokenSymbol
    tokenDecimals := request.tokenDecimals
    tokenContract := request.tokenContract
    walletOwner := request.walletOwner
    direction := request.action.direction
    route := request.action.route
    amount := request.action.amount
    binanceBalanceBefore := request.binanceBalanceBefore
    walletBalanceBefore := request.walletBalanceBefore
    revalidationStartBalance := request.revalidationStartBalance
    maximumFeeBaseUnits := request.maximumFee
    approvalSessionId := request.approvalSessionId }
  progress := .intentRecorded

variable (io : Io)

def reserve (request : RebalanceExecutionRequest) : JournalProc RebalanceExecutionOperation := do
  lift (validateRequest request)
  let journal ← get
  let active ← lift journal.activeOperation
  ensure (active = none) "another rebalance operation is active"
  let operation := reservation digest journal.nextSequence request
  append io operation
  return operation

def unknownOperation (operationId : String) : String :=
  "unknown rebalance operation " ++ operationId

/-- Appends the current operation with another progress. -/
def appendProgress (current : RebalanceExecutionOperation) (progress : RebalanceExecutionProgress) :
    JournalProc RebalanceExecutionOperation := do
  let next := { current with progress := progress }
  append io next
  return next

variable (operationId : String)

def advance (progress : RebalanceExecutionProgress) : JournalProc RebalanceExecutionOperation := do
  let journal ← get
  let current ← orFail (journal.operations.get? operationId) (unknownOperation operationId)
  if current.progress.isQuarantined = true then
    ensure (journal.progressBefore? operationId = some progress)
      "quarantined rebalance may only reopen its exact prior durable progress"
  lift (validateTransition current.intent current.progress progress .liveAppend)
  appendProgress io current progress

def reopenPostCreditSettlementQuarantine : JournalProc RebalanceExecutionOperation := do
  let journal ← get
  let current ← orFail (journal.operations.get? operationId) (unknownOperation operationId)
  match current.progress with
  | .quarantined reason =>
    let progress ← orFail (journal.progressBefore? operationId)
      "post-credit settlement quarantine has no prior durable progress"
    ensure (retryablePostCreditSettlementQuarantine reason progress = true)
      "rebalance quarantine is not an approved post-credit settlement retry"
    advance io operationId progress
  | _ => throw "rebalance operation is not quarantined"

def recordReconciledDirectDeposit (chainId : Nat) (transactionHash : B256) :
    JournalProc RebalanceExecutionOperation := do
  let journal ← get
  let current ← orFail (journal.operations.get? operationId) (unknownOperation operationId)
  ensure (journal.progressBefore? operationId = some .intentRecorded)
    "reconciled direct deposit quarantine did not follow an exact recorded intent"
  let progress := .depositTransferMined chainId transactionHash
  ensure (reconciledDirectDepositTransition current.intent current.progress progress = true)
    "rebalance quarantine is not an approved reconciled direct deposit"
  appendProgress io current progress

def recordReconciledArbitrumDeposit (transactionHash : B256) :
    JournalProc RebalanceExecutionOperation :=
  recordReconciledDirectDeposit io operationId 42161 transactionHash

def recordReconciledAcrossFill (fillTransactionHash : B256)
    (receivedBaseUnits : Nat) : JournalProc RebalanceExecutionOperation := do
  let journal ← get
  let current ← orFail (journal.operations.get? operationId) (unknownOperation operationId)
  let previous ← orFail (journal.progressBefore? operationId)
    "reconciled Across fill quarantine has no prior durable progress"
  match previous with
  | .bridgeMined _ _ minimumOutputAmount _ =>
    ensure (minimumOutputAmount ≤ receivedBaseUnits)
      "reconciled Across fill is below the journaled minimum"
    let progress := .acrossFilled fillTransactionHash receivedBaseUnits
    ensure (reconciledAcrossFillTransition current.intent current.progress progress = true)
      "rebalance quarantine is not an approved reconciled Across fill"
    appendProgress io current progress
  | _ => throw "reconciled Across fill quarantine did not follow a mined bridge"

def recordReconciledConsumedNonceDeposit : JournalProc RebalanceExecutionOperation := do
  let journal ← get
  let current ← orFail (journal.operations.get? operationId) (unknownOperation operationId)
  let progress ← orFail (journal.progressBefore? operationId)
    "consumed-nonce deposit quarantine has no prior durable progress"
  ensure (reconciledConsumedNonceDepositTransition current.intent current.progress progress = true)
    "rebalance quarantine is not an approved consumed-nonce deposit retry"
  appendProgress io current progress

def reopenRetryableTravelRuleOwnershipFailure :
    JournalProc (Option RebalanceExecutionOperation) := do
  let journal ← get
  let active ← lift journal.activeOperation
  match active, journal.operations.get? operationId with
  | none, some operation =>
    if travelRuleRetryLeft journal operation = true then
      let reopened ← advance io operationId (.binanceWithdrawalSubmissionStarted travelRuleApiMode
        operation.intent.walletBalanceBefore 0)
      return some reopened
    else
      return none
  | _, _ => return none
where
  /-- A failure that may be retried and was not retried twice. -/
  travelRuleRetryLeft (journal : RebalanceExecutionJournal)
      (operation : RebalanceExecutionOperation) : Bool :=
    match operation.progress with
    | .failed reason => retryableTravelRuleOwnershipFailure reason &&
        journal.notes.travelRuleOwnershipReopenCounts.getD operation.operationId 0 < 2
    | _ => false

/-- The progress that a quarantined operation is reopened to. -/
def reopenable? (journal : RebalanceExecutionJournal) (operation : RebalanceExecutionOperation) :
    Option RebalanceExecutionProgress :=
  match operation.progress, journal.progressBefore? operation.operationId with
  | .quarantined reason, some previous =>
    let (reopenCount, maximumReopens) :=
      if unindexedMasterTransferQuarantine reason = true then
        (journal.notes.unindexedMasterTransferReopenCounts.getD operation.operationId 0, 2)
      else if retryablePremutationCapitalPreflightQuarantine reason previous = true then
        (journal.notes.quarantineReopenCounts.getD operation.operationId 0, 5)
      else
        (journal.notes.quarantineReopenCounts.getD operation.operationId 0, 4)
    if maximumReopens ≤ reopenCount then none
    else if correctedGuardQuarantine reason = true ∨
        retryablePremutationCapitalPreflightQuarantine reason previous = true ∨
        correctedAcrossDepositChainQuarantine operation.intent reason previous = true then
      some previous
    else none
  | _, _ => none

/-- The first quarantined operation that may be reopened. -/
def nextReopenable? (journal : RebalanceExecutionJournal) :
    Option (String × RebalanceExecutionProgress) :=
  journal.operations.values.findSome? fun operation =>
    (reopenable? journal operation).map fun progress => (operation.operationId, progress)

def reopenNextRetryableQuarantine : JournalProc (Option RebalanceExecutionOperation) := do
  let journal ← get
  let active ← lift journal.activeOperation
  match active with
  | some _ => return none
  | none =>
    match journal.operations.values.find?
        (reopenRetryableTravelRuleOwnershipFailure.travelRuleRetryLeft journal) with
    | some operation => reopenRetryableTravelRuleOwnershipFailure io operation.operationId
    | none =>
      match nextReopenable? journal with
      | some (operationId, progress) =>
        let reopened ← advance io operationId progress
        return some reopened
      | none => return none

/-- A public call that may write. -/
inductive Call
  | reserve (request : RebalanceExecutionRequest)
  | advance (operationId : String) (progress : RebalanceExecutionProgress)
  | reopenPostCreditSettlementQuarantine (operationId : String)
  | reopenNextRetryableQuarantine
  | reopenRetryableTravelRuleOwnershipFailure (operationId : String)
  | recordReconciledDirectDeposit (operationId : String) (chainId : Nat) (transactionHash : B256)
  | recordReconciledAcrossFill (operationId : String) (fillTransactionHash : B256)
      (receivedBaseUnits : Nat)
  | recordReconciledConsumedNonceDeposit (operationId : String)

/-- Runs a call; nothing is returned where the call finds nothing to reopen. -/
def perform :
    Call → JournalProc (Option RebalanceExecutionOperation)
  | .reserve request => some <$> reserve digest io request
  | .advance operationId progress => some <$> advance io operationId progress
  | .reopenPostCreditSettlementQuarantine operationId =>
    some <$> reopenPostCreditSettlementQuarantine io operationId
  | .reopenNextRetryableQuarantine => reopenNextRetryableQuarantine io
  | .reopenRetryableTravelRuleOwnershipFailure operationId =>
    reopenRetryableTravelRuleOwnershipFailure io operationId
  | .recordReconciledDirectDeposit operationId chainId transactionHash =>
    some <$> recordReconciledDirectDeposit io operationId chainId transactionHash
  | .recordReconciledAcrossFill operationId fillTransactionHash receivedBaseUnits =>
    some <$> recordReconciledAcrossFill io operationId fillTransactionHash receivedBaseUnits
  | .recordReconciledConsumedNonceDeposit operationId =>
    some <$> recordReconciledConsumedNonceDeposit io operationId

end Calls

/-! ## What an append can do -/

/-- The journal with the record of an operation in its file. -/
def RebalanceExecutionJournal.written (journal : RebalanceExecutionJournal)
    (operation : RebalanceExecutionOperation) (now : Nat) (write : Write) :
    RebalanceExecutionJournal :=
  { journal with file := journal.file.after ⟨journal.nextSequence, now, operation⟩ write }

variable {io : Io} {journal : RebalanceExecutionJournal} {op : RebalanceExecutionOperation}
  {intent : RebalanceExecutionIntent} {next previous : RebalanceExecutionProgress}
  {E : String → RebalanceExecutionJournal → Prop} {Q : Unit → RebalanceExecutionJournal → Prop}
  {memory : Memory} {digest : FingerprintFields → B256}

/-- One append is refused without effect, fails to write and poisons the journal, or has written the
record and goes on from the new operations. -/
theorem wp_append (refused : ∀ e, E e journal)
    (unwritten : ∀ now operations, journal.poisoned = false →
      applySnapshot journal.operations op .liveAppend = .ok operations →
      io.write ≠ .synced →
      ∀ e, E e { journal.written op now io.write with poisoned := true })
    (durable : ∀ now operations, journal.poisoned = false →
      applySnapshot journal.operations op .liveAppend = .ok operations →
      io.write = .synced →
      wp (commit op (journal.operations.get? op.operationId) now) Q E
        { journal.written op now .synced with operations := operations }) :
    wp (append io op) Q E journal := by
  simp only [append, wp_bind, wp_get, wp_ensure, wp_lift, wp_orFail, wp_ite, wp_set, wp_throw]
  refine ⟨fun sound => ⟨fun _ _ => ⟨fun now _ => ⟨fun operations applied => ⟨fun len _ =>
    ⟨fun _ => ⟨fun synced => ?_, fun failed => unwritten now operations sound applied failed _⟩,
      fun _ => refused _⟩, fun _ => refused _⟩, fun _ _ => refused _⟩, fun _ => refused _⟩,
    fun _ _ => refused _⟩, fun _ => refused _⟩
  have committed := durable now operations sound applied synced
  simpa only [RebalanceExecutionJournal.written, synced] using committed

/-! ## What a call can do -/

theorem reconciledDirectDepositTransition_follows
    (approved : reconciledDirectDepositTransition intent previous next = true) :
    previous.isQuarantined = true ∧ stepAllowed .liveAppend intent .intentRecorded next = true := by
  unfold reconciledDirectDepositTransition at approved
  split at approved
  · rename_i route direction
    exact ⟨rfl, by simp [stepAllowed, route, direction, Route.isDirect]⟩
  · cases approved

theorem reconciledAcrossFillTransition_follows
    (approved : reconciledAcrossFillTransition intent previous next = true) (originChainId : Nat)
    (transactionHash : B256) (minimum destination : Nat) :
    previous.isQuarantined = true ∧ stepAllowed .liveAppend intent
      (.bridgeMined originChainId transactionHash minimum destination) next = true := by
  unfold reconciledAcrossFillTransition at approved
  split at approved
  · rename_i route
    exact ⟨rfl, by simp [stepAllowed, route, Route.isDirect]⟩
  · cases approved

theorem reconciledConsumedNonceDepositTransition_quarantined
    (approved : reconciledConsumedNonceDepositTransition intent previous next = true) :
    previous.isQuarantined = true := by
  unfold reconciledConsumedNonceDepositTransition at approved
  split at approved
  · rfl
  · cases approved

/-- `operation` continues the recorded operation `current`: by a valid step, or out of a quarantine
to the progress before it or to one that directly follows that. -/
structure Continues (journal : RebalanceExecutionJournal)
    (current operation : RebalanceExecutionOperation) : Prop where
  stored : journal.operations.get? operation.operationId = some current
  intent : operation.intent = current.intent
  steps : current.progress.isQuarantined = false →
    validateTransition current.intent current.progress operation.progress .liveAppend = .ok ()
  resumes : current.progress.isQuarantined = true →
    ∃ before, journal.progressBefore? operation.operationId = some before ∧
      (operation.progress = before ∨
        stepAllowed .liveAppend current.intent before operation.progress = true)

/-- The operation that `reopenNextRetryableQuarantine` takes up. -/
def nextRetryable? (journal : RebalanceExecutionJournal) : Option String :=
  match journal.operations.values.find?
      (reopenRetryableTravelRuleOwnershipFailure.travelRuleRetryLeft journal) with
  | some operation => some operation.operationId
  | none => (nextReopenable? journal).map Prod.fst

/-- The recorded operation that a call is about. -/
def Call.target? (journal : RebalanceExecutionJournal) : Call → Option String
  | .reserve _ => none
  | .advance operationId _ | .reopenPostCreditSettlementQuarantine operationId
  | .reopenRetryableTravelRuleOwnershipFailure operationId
  | .recordReconciledDirectDeposit operationId .. | .recordReconciledAcrossFill operationId ..
  | .recordReconciledConsumedNonceDeposit operationId => some operationId
  | .reopenNextRetryableQuarantine => nextRetryable? journal

/-- Whether a call refuses while an operation is active. -/
def Call.asks : Call → Bool
  | .reserve _ | .reopenNextRetryableQuarantine | .reopenRetryableTravelRuleOwnershipFailure _ => true
  | _ => false

/-- Why a call appends an operation. -/
inductive Cause (digest : FingerprintFields → B256) (journal : RebalanceExecutionJournal) :
    Call → RebalanceExecutionOperation → Prop
  | reserved {request : RebalanceExecutionRequest} (idle : journal.activeOperation = .ok none) :
    Cause digest journal (.reserve request) (reservation digest journal.nextSequence request)
  | continued {call : Call} {current operation : RebalanceExecutionOperation}
    (continues : Continues journal current operation)
    (target : call.target? journal = some operation.operationId)
    (asked : call.asks = true → journal.activeOperation = .ok none) :
    Cause digest journal call operation

section Rules

variable {digest : FingerprintFields → B256} {io : Io} {journal : RebalanceExecutionJournal}
  {E : String → RebalanceExecutionJournal → Prop}
  {Q : RebalanceExecutionOperation → RebalanceExecutionJournal → Prop}
  {progress : RebalanceExecutionProgress} {operationId : String}
  {current : RebalanceExecutionOperation}

/-- A call that does not ask goes on with the operation that it names. -/
theorem Cause.unasked {call : Call} {op : RebalanceExecutionOperation} (asks : call.asks = false)
    (continues : Continues journal current op)
    (target : call.target? journal = some op.operationId) : Cause digest journal call op :=
  .continued continues target (by simp [asks])

theorem wp_appendProgress (appends : wp (append io { current with progress := progress })
      (fun _ => Q { current with progress := progress }) E journal) :
    wp (appendProgress io current progress) Q E journal := by
  simpa only [appendProgress, wp_bind, wp_pure] using appends

theorem wp_advance (refused : ∀ e, E e journal)
    (appends : ∀ current op, Continues journal current op →
      op.operationId = operationId →
      wp (append io op) (fun _ => Q op) E journal) :
    wp (advance io operationId progress) Q E journal := by
  simp only [advance, wp_bind, wp_get, wp_orFail, wp_ite, wp_ensure, wp_lift]
  refine ⟨fun current stored => ?_, fun _ => refused _⟩
  have named : current.operationId = operationId := KeyedMap.key_of_get? stored
  have step : (current.progress.isQuarantined = true →
        journal.progressBefore? operationId = some progress) →
      validateTransition current.intent current.progress progress .liveAppend = .ok () →
      wp (appendProgress io current progress) Q E journal := by
    intro exact valid
    refine wp_appendProgress (appends current _ ?_ named)
    have stored' : journal.operations.get? current.operationId = some current := by
      rw [named]
      exact stored
    refine ⟨stored', rfl, fun _ => valid, fun quarantined => ⟨progress, ?_, Or.inl rfl⟩⟩
    rw [← exact quarantined]
    exact congrArg journal.progressBefore? named
  refine ⟨fun _ => ⟨fun exact => ⟨fun _ valid => step (fun _ => exact) valid,
    fun _ _ => refused _⟩, fun _ => refused _⟩, fun live => ⟨fun _ valid =>
      step (fun quarantined => absurd quarantined live) valid, fun _ _ => refused _⟩⟩

/-- A quarantined operation that a call goes on with by itself. -/
theorem wp_resume {before : RebalanceExecutionProgress}
    (stored : journal.operations.get? operationId = some current)
    (quarantined : current.progress.isQuarantined = true)
    (noted : journal.progressBefore? operationId = some before) (follows : progress = before ∨
      stepAllowed .liveAppend current.intent before progress = true)
    (appends : ∀ current op, Continues journal current op →
      op.operationId = operationId →
      wp (append io op) (fun _ => Q op) E journal) :
    wp (appendProgress io current progress) Q E journal := by
  have named : current.operationId = operationId := KeyedMap.key_of_get? stored
  subst named
  refine wp_appendProgress (appends current _ ⟨stored, rfl, ?_, fun _ => ⟨before, noted, follows⟩⟩ rfl)
  intro live
  rw [quarantined] at live
  cases live

section Optional

variable {Q : Option RebalanceExecutionOperation → RebalanceExecutionJournal → Prop} {call : Call}
  (unchanged : Q none journal) (refused : ∀ e, E e journal)

include unchanged refused

/-- The journal asks whether another operation is active before it reopens one. -/
theorem wp_reopenRetryableTravelRuleOwnershipFailure
    (appends : ∀ current op, Continues journal current op →
      op.operationId = operationId → journal.activeOperation = .ok none →
      wp (append io op) (fun _ => Q (some op)) E journal) :
    wp (reopenRetryableTravelRuleOwnershipFailure io operationId) Q E journal := by
  simp only [reopenRetryableTravelRuleOwnershipFailure, wp_bind, wp_get, wp_lift]
  refine ⟨fun active asked => ?_, fun _ _ => refused _⟩
  split
  · rw [wp_ite]
    refine ⟨fun _ => ?_, fun _ => unchanged⟩
    rw [wp_bind]
    refine wp_advance refused fun current op continues named => ?_
    exact appends current op continues named asked
  · exact unchanged

theorem wp_reopenNextRetryableQuarantine
    (appends : ∀ current op, Continues journal current op →
      nextRetryable? journal = some op.operationId → journal.activeOperation = .ok none →
      wp (append io op) (fun _ => Q (some op)) E journal) :
    wp (reopenNextRetryableQuarantine io) Q E journal := by
  simp only [reopenNextRetryableQuarantine, wp_bind, wp_get, wp_lift]
  refine ⟨fun active asked => ?_, fun _ _ => refused _⟩
  split
  · exact unchanged
  · split
    · rename_i failure found
      refine wp_reopenRetryableTravelRuleOwnershipFailure unchanged refused
        fun current op continues named idle => appends current op continues ?_ idle
      rw [nextRetryable?, found, named]
    · rename_i missing
      split
      · rename_i operationId progress found
        rw [wp_bind]
        refine wp_advance refused fun current op continues named => ?_
        refine appends current op continues ?_ asked
        rw [nextRetryable?, missing, found, named]
        rfl
      · exact unchanged

/-- One call changes nothing or appends one operation for a cause. -/
theorem wp_perform
    (appends : ∀ op, Cause digest journal call op →
      wp (append io op) (fun _ => Q (some op)) E journal) :
    wp (perform digest io call) Q E journal := by
  cases call with
  | reserve request =>
    simp only [perform, wp_map, reserve, wp_bind, wp_lift, wp_get, wp_ensure, wp_pure]
    refine ⟨fun _ _ => ⟨fun active asked => ⟨fun idle => ?_, fun _ => refused _⟩,
      fun _ _ => refused _⟩, fun _ _ => refused _⟩
    subst idle
    exact appends _ (.reserved asked)
  | advance operationId progress =>
    rw [perform, wp_map]
    refine wp_advance refused fun current op continues named => ?_
    exact appends op (.unasked rfl continues (congrArg some named.symm))
  | reopenPostCreditSettlementQuarantine operationId =>
    rw [perform, wp_map]
    simp only [reopenPostCreditSettlementQuarantine, wp_bind, wp_get, wp_orFail]
    refine ⟨fun current stored => ?_, fun _ => refused _⟩
    split
    · simp only [wp_bind, wp_orFail, wp_ensure]
      refine ⟨fun progress _ => ⟨fun _ => ?_, fun _ => refused _⟩, fun _ => refused _⟩
      refine wp_advance refused fun current op continues named => ?_
      exact appends op (.unasked rfl continues (congrArg some named.symm))
    · exact refused _
  | reopenNextRetryableQuarantine =>
    refine wp_reopenNextRetryableQuarantine unchanged refused
      fun _ op continues target idle => ?_
    exact appends op (.continued continues target fun _ => idle)
  | reopenRetryableTravelRuleOwnershipFailure operationId =>
    refine wp_reopenRetryableTravelRuleOwnershipFailure unchanged refused
      fun _ op continues named idle => ?_
    exact appends op (.continued continues (congrArg some named.symm) fun _ => idle)
  | recordReconciledDirectDeposit operationId chainId transactionHash =>
    rw [perform, wp_map]
    simp only [recordReconciledDirectDeposit, wp_bind, wp_get, wp_orFail, wp_ensure]
    refine ⟨fun current stored => ⟨fun noted => ⟨fun approved => ?_, fun _ => refused _⟩,
      fun _ => refused _⟩, fun _ => refused _⟩
    obtain ⟨quarantined, follows⟩ := reconciledDirectDepositTransition_follows approved
    refine wp_resume stored quarantined noted (Or.inr follows) fun _ op continues named => ?_
    exact appends op (.unasked rfl continues (congrArg some named.symm))
  | recordReconciledAcrossFill operationId fillTransactionHash receivedBaseUnits =>
    rw [perform, wp_map]
    simp only [recordReconciledAcrossFill, wp_bind, wp_get, wp_orFail]
    refine ⟨fun current stored => ⟨fun previous noted => ?_, fun _ => refused _⟩,
      fun _ => refused _⟩
    split
    · rename_i originChainId transactionHash minimum destination
      simp only [wp_bind, wp_ensure]
      refine ⟨fun _ => ⟨fun approved => ?_, fun _ => refused _⟩, fun _ => refused _⟩
      obtain ⟨quarantined, follows⟩ := reconciledAcrossFillTransition_follows approved
        originChainId transactionHash minimum destination
      refine wp_resume stored quarantined noted (Or.inr follows)
        fun _ op continues named => ?_
      exact appends op (.unasked rfl continues (congrArg some named.symm))
    · exact refused _
  | recordReconciledConsumedNonceDeposit operationId =>
    rw [perform, wp_map]
    simp only [recordReconciledConsumedNonceDeposit, wp_bind, wp_get, wp_orFail, wp_ensure]
    refine ⟨fun current stored => ⟨fun progress noted => ⟨fun approved => ?_, fun _ => refused _⟩,
      fun _ => refused _⟩, fun _ => refused _⟩
    have quarantined := reconciledConsumedNonceDepositTransition_quarantined approved
    refine wp_resume stored quarantined noted (Or.inl rfl) fun _ op continues named => ?_
    exact appends op (.unasked rfl continues (congrArg some named.symm))

end Optional

end Rules

/-! ## What the records say -/

/-- The operations and the progresses before their quarantines. -/
structure Recorded where
  operations : KeyedMap operationId
  before : TreeMap String RebalanceExecutionProgress

def Recorded.empty : Recorded :=
  ⟨.empty, ∅⟩

def Recorded.add (recorded : Recorded) (operation : RebalanceExecutionOperation) : Recorded where
  operations := recorded.operations.put operation
  before :=
    match recorded.operations.get? operation.operationId with
    | some previous =>
      if operation.progress.isQuarantined = true then
        recorded.before.insert operation.operationId previous.progress
      else recorded.before
    | none => recorded.before

/-- What a list of snapshots leaves, in the order they were recorded. -/
def recordedBy (operations : List RebalanceExecutionOperation) : Recorded :=
  operations.foldl Recorded.add .empty

theorem recordedBy_concat (operations : List RebalanceExecutionOperation)
    (op : RebalanceExecutionOperation) :
    recordedBy (operations ++ [op]) = (recordedBy operations).add op := by
  simp [recordedBy]

def Memory.recorded (memory : Memory) : Recorded :=
  ⟨memory.operations, memory.notes.progressBeforeQuarantine⟩

/-- The snapshots in a file. -/
def snapshots (file : File WirePayload) : List RebalanceExecutionOperation :=
  file.records.map WirePayload.operation

theorem applySnapshot_eq_ok {operations next : KeyedMap operationId}
    {origin : TransitionOrigin} (applied : applySnapshot operations op origin = .ok next) :
    next = operations.put op := by
  unfold applySnapshot at applied
  rw [bind_eq_ok] at applied
  obtain ⟨⟨⟩, -, applied⟩ := applied
  split at applied
  · simp only [bind_eq_ok, pure_eq_ok] at applied
    obtain ⟨-, -, -, -, rfl⟩ := applied
    rfl
  · simp only [bind_eq_ok, pure_eq_ok] at applied
    obtain ⟨-, -, rfl⟩ := applied
    rfl

/-- Whichever way the counting ends, the progress before a quarantine is noted. -/
theorem wp_noteStep (memory : Memory) (op : RebalanceExecutionOperation) :
    wp (noteStep op.operationId (memory.operations.get? op.operationId)
        op.progress)
      (fun _ notes => notes.progressBeforeQuarantine = (memory.recorded.add op).before)
      (fun _ notes => notes.progressBeforeQuarantine = (memory.recorded.add op).before ∧
        (memory.operations.get? op.operationId).isSome = true)
      memory.notes := by
  unfold noteStep Recorded.add Memory.recorded
  cases stored : memory.operations.get? op.operationId with
  | none => exact rfl
  | some previous =>
    simp only [noteProgress, wp_bind, wp_ite, wp_modify, wp_get, wp_lift, wp_set, wp_pure]
    by_cases quarantined : op.progress.isQuarantined = true
    · simp [quarantined]
    · simp [quarantined]

theorem loadStep_eq_ok {next : Memory} {payload : WirePayload}
    (loaded : loadStep memory payload = .ok next) :
    payload.sequence = memory.nextSequence ∧
      next.recorded = memory.recorded.add payload.operation ∧
      next.nextSequence = memory.nextSequence + 1 := by
  have noted := wp_noteStep memory payload.operation
  unfold wp at noted
  simp only [loadStep, bind_eq_ok, require_eq_ok, orError_eq_ok, pure_eq_ok,
    checkedAdd_eq_some] at loaded
  obtain ⟨⟨⟩, current, ⟨⟩, returned, operations, applied, sequence, ⟨-, rfl⟩, rfl⟩ := loaded
  refine ⟨current, ?_, rfl⟩
  split at noted
  · rename_i notes ran
    rw [Memory.recorded, applySnapshot_eq_ok applied, ran]
    exact congrArg (Recorded.mk _) noted
  · rename_i error notes ran
    rw [ran] at returned
    cases returned

/-- A file that can be opened gives what its records say, and counts them. -/
theorem replay_eq_ok {records : List WirePayload} (replayed : replay records = .ok memory) :
    memory.recorded = recordedBy (records.map WirePayload.operation) ∧
      memory.nextSequence = records.length := by
  induction records using List.reverseRecOn generalizing memory with
  | nil =>
    cases replayed
    exact ⟨rfl, rfl⟩
  | append_singleton records record ih =>
    unfold replay at replayed
    rw [List.foldlM_append, bind_eq_ok] at replayed
    obtain ⟨before, replayed, stepped⟩ := replayed
    obtain ⟨after, stepped, returned⟩ := bind_eq_ok.mp stepped
    cases returned
    obtain ⟨recorded, counted⟩ := ih replayed
    obtain ⟨-, added, next⟩ := loadStep_eq_ok stepped
    rw [List.map_append, List.map_singleton, recordedBy_concat, ← recorded, List.length_append,
      List.length_singleton, ← counted]
    exact ⟨added, next⟩

theorem openFile_eq_ok {file : File WirePayload} (opened : openFile file = .ok journal) :
    journal.recorded = recordedBy (snapshots file) ∧ journal.nextSequence = file.records.length ∧
      journal.poisoned = false ∧ journal.file = file := by
  simp only [openFile, bind_eq_ok, require_eq_ok, pure_eq_ok] at opened
  obtain ⟨memory, replayed, -, -, rfl⟩ := opened
  obtain ⟨recorded, counted⟩ := replay_eq_ok replayed
  exact ⟨recorded, counted, rfl, rfl⟩

/-- The journal after an operation was written, up to the counts and the sequence number. -/
structure Appended (journal : RebalanceExecutionJournal) (operation : RebalanceExecutionOperation)
    (after : RebalanceExecutionJournal) : Prop where
  sound : after.poisoned = false
  snapshots : snapshots after.file = snapshots journal.file ++ [operation]
  recorded : after.recorded = journal.recorded.add operation

/-- One append, as far as the operations and the progresses before their quarantines go.  A write
that is not synced may still leave the record in the file. -/
theorem wp_append_recorded (refused : ∀ e, E e journal)
    (unwritten : ∀ after : RebalanceExecutionJournal, journal.poisoned = false →
      after.toMemory = journal.toMemory → after.poisoned = true →
      snapshots after.file = snapshots journal.file ∨
        snapshots after.file = snapshots journal.file ++ [op] →
      ∀ e, E e after) (stopped : ∀ after : RebalanceExecutionJournal, journal.poisoned = false →
      Appended journal op after → after.nextSequence = journal.nextSequence →
      (journal.nextSequence + 1 < 2 ^ 64 →
        (journal.operations.get? op.operationId).isSome = true) → ∀ e, E e after)
    (done : ∀ after : RebalanceExecutionJournal, journal.poisoned = false →
      Appended journal op after → after.nextSequence = journal.nextSequence + 1 →
      Q () after) : wp (append io op) Q E journal := by
  refine wp_append refused ?_ ?_
  · intro now operations sound applied failed
    refine unwritten _ sound rfl rfl ?_
    cases write : io.write with
    | synced => exact absurd write failed
    | lost | torn => exact Or.inl rfl
    | kept => exact Or.inr (List.map_append ..)
  · intro now operations sound applied _
    rw [applySnapshot_eq_ok applied]
    simp only [commit, wp_bind, wp_zoom, wp_modify, wp_get, wp_orFail, wp_set]
    refine wp_mono (wp_noteStep journal.toMemory op) ?_ ?_
    · intro _ notes noted
      have appended : ∀ startedAt sequence, Appended journal op
          { journal.written op now .synced with
            operations := journal.operations.put op
            notes := notes
            operationStartedAtUnixMs := startedAt
            nextSequence := sequence } := fun _ _ =>
        ⟨sound, List.map_append .., congrArg (Recorded.mk _) noted⟩
      refine ⟨fun sequence fits => ?_, fun full => ?_⟩
      · obtain ⟨-, rfl⟩ := checkedAdd_eq_some.mp fits
        exact done _ sound (appended _ _) rfl
      · refine stopped _ sound (appended _ _) rfl (fun room => ?_) _
        exact absurd (checkedAdd_eq_none.mp full) (Nat.not_le_of_lt room)
    · intro e notes failed
      refine stopped { journal.written op now .synced with
        operations := journal.operations.put op, notes := notes } sound
        ⟨sound, List.map_append .., ?_⟩ rfl (fun _ => failed.2) e
      exact congrArg (Recorded.mk _) failed.1

/-! ## Runs -/

/-- The journal of a new file. -/
def RebalanceExecutionJournal.fresh : RebalanceExecutionJournal :=
  { Memory.empty with poisoned := false, file := ⟨[], false⟩ }

/-- The journals that calls and restarts lead to.  A restart opens the file that the last process
left, whether or not its last write was synced. -/
inductive Run (digest : FingerprintFields → B256)
    (allowed : RebalanceExecutionJournal → Io → Call → Prop) :
    RebalanceExecutionJournal → Prop
  | fresh : Run digest allowed .fresh
  | call {journal : RebalanceExecutionJournal} (ran : Run digest allowed journal)
    (io : Io) (call : Call) (meets : allowed journal io call) :
    Run digest allowed ((perform digest io call).final journal)
  | restart {journal reopened : RebalanceExecutionJournal} (ran : Run digest allowed journal)
    (opened : openFile journal.file = .ok reopened) : Run digest allowed reopened

section Calls

variable (digest : FingerprintFields → B256) (io : Io) (calls : List Call)

/-- The journal after calls on a new file. -/
def afterCalls : RebalanceExecutionJournal :=
  calls.foldl (fun journal call => (perform digest io call).final journal) .fresh

theorem afterCalls_concat (call : Call) :
    afterCalls digest io (calls ++ [call]) =
      (perform digest io call).final (afterCalls digest io calls) := by
  simp [afterCalls]

variable {digest io calls}

theorem run_afterCalls {allowed : RebalanceExecutionJournal → Io → Call → Prop}
    (meets : ∀ before call after, calls = before ++ call :: after →
      allowed (afterCalls digest io before) io call) :
    Run digest allowed (afterCalls digest io calls) := by
  induction calls using List.reverseRecOn with
  | nil => exact .fresh
  | append_singleton calls call ih =>
    have ran := ih fun before call' after split => meets before call' (after ++ [call]) (by simp [split])
    rw [afterCalls_concat]
    exact .call ran io call (meets calls call [] rfl)

/-- A call takes at most one sequence number. -/
theorem perform_nextSequence_le {call : Call} :
    ((perform digest io call).final journal).nextSequence ≤ journal.nextSequence + 1 := by
  refine final_of_wp (P := fun after => after.nextSequence ≤ journal.nextSequence + 1)
    (wp_perform (Nat.le_succ _) (fun _ => Nat.le_succ _) fun op _ => ?_)
  apply wp_append_recorded
  · exact fun _ => Nat.le_succ _
  · intro after _ same _ _ _
    rw [same]
    exact Nat.le_succ _
  · exact fun _ _ _ same _ _ => same.le.trans (Nat.le_succ _)
  · exact fun _ _ _ next => next.le

variable (digest io calls) in
theorem afterCalls_nextSequence_le : (afterCalls digest io calls).nextSequence ≤ calls.length :=
  (measure_foldl_le (·.nextSequence) (fun _ _ => perform_nextSequence_le)
    RebalanceExecutionJournal.fresh calls).trans_eq (Nat.zero_add _)

end Calls

/-- A disk and a clock that work. -/
def sampleIo : Io :=
  ⟨some 1, some 100, .synced⟩

/-- A direct transfer to the wallet. -/
def sampleRequest : RebalanceExecutionRequest where
  authority := .worldChainV12
  tokenSymbol := "USDC"
  tokenDecimals := 6
  tokenContract := 1
  walletOwner := 2
  action := { direction := .binanceToWallet, amount := 10, route := .direct "WLD" 480 }
  binanceBalanceBefore := 100
  walletBalanceBefore := 0
  revalidationStartBalance := 10
  maximumFee := none
  approvalSessionId := none

/-- The id of the operation reserved at a sequence number, for a digest of zeros. -/
def sampleId (sequence : Nat) : String :=
  operationIdOf sequence (hexDigits 0)

/-- A direct deposit at the exchange. -/
def depositRequest : RebalanceExecutionRequest :=
  { sampleRequest with
    action := { direction := .walletToBinance, amount := 10, route := .direct "WLD" 480 }
    binanceBalanceBefore := 0
    walletBalanceBefore := 100 }

def creditedDeposit : RebalanceExecutionOperation :=
  { reservation (fun _ => 0) 0 depositRequest with progress := .binanceCredited "deposit" 10 }

/-- The deposit while the node lacks the block its settlement is read at. -/
def heldDeposit : RebalanceExecutionOperation :=
  { creditedDeposit with progress := .quarantined "JSON-RPC error -32000: header not found" }

/-- The deposit is recorded up to its credit. -/
def depositCalls : List Call :=
  [.reserve depositRequest, .advance (sampleId 0) (.depositTransferMined 480 1),
    .advance (sampleId 0) creditedDeposit.progress]

end PolyBot.Rebalance
