import PolyBot.Lib.AppendLog
import PolyBot.Lib.KeyedMap
import PolyBot.Trade.Operation

/-!
# The trade journal

Every record of the journal is the whole state of one trade.  A record is accepted when it follows
from the trade's state before it: results do not change unless an unknown one is reconciled,
dispatches and the selected price and target stay, and the stage moves along `stageTransitionAllowed`.

* `applySnapshot_eq_ok`: when a record is accepted, and what it writes.
* `TradeJournal.append`, `TradeJournal.openFile`: one append, and reading the file back.
-/

namespace PolyBot.Trade

open Std

def TradeOperation.planId (operation : TradeOperation) : String :=
  operation.intent.planId

/-- The trades of a journal, in the order of their plan ids. -/
abbrev Operations := KeyedMap TradeOperation.planId

/-- The states a trade may be in after another one. -/
def stageTransitionAllowed (previous next : TradeStage) : Bool :=
  previous = next ||
    match previous, next with
    | .prepared, .executing => true
    | .executing, .recovering | .executing, .balancedProfit | .executing, .balancedLoss
    | .executing, .unknownExposure | .executing, .halted => true
    | .recovering, .balancedProfit | .recovering, .balancedLoss
    | .recovering, .unknownExposure | .recovering, .halted => true
    | .unknownExposure, .executing | .unknownExposure, .recovering
    | .unknownExposure, .halted => true
    | .halted, .recovering | .halted, .balancedProfit | .halted, .balancedLoss => true
    | _, _ => false

def resultIsUnchangedOrReconciled (previous next : Option LegResult) : Bool :=
  previous = next ||
    (match previous, next with
      | some previous, some next => previous.status = .unknown && next.status ≠ .unknown
      | _, _ => false) ||
    previous.isNone

def recoveryResultsAreAppendOnlyOrReconciled (previous next : List LegResult) : Bool :=
  previous.isPrefixOf next ||
    (previous.length = next.length && !previous.isEmpty && previous.dropLast = next.dropLast &&
      previous.getLast?.any (fun result => result.status = .unknown) &&
      next.getLast?.any (fun result => result.status ≠ .unknown))

/-- The one change of a closed trade: an operator's correction of an expired plan. -/
def operatorTerminalCorrectionAllowed (previous next : TradeOperation) : Bool :=
  previous.stage.terminal && previous.operatorRecovery.isNone && next.operatorRecovery.isSome &&
    previous.dexDispatched && !previous.cexDispatched && previous.cexResult.isNone &&
    next.cexResult.isNone && previous.recoveryResults.isEmpty &&
    next.recoveryResults.length = 1 &&
    previous.dexResult.any (fun result =>
      result.status = .failed && result.venueReference = "dex:expired-plan") &&
    next.dexResult.any (fun result => result.status = .filled) &&
    next.recoveryResults.head?.any (fun result => result.status = .filled) &&
    next.stage.terminal && next.result.isSome && next.tokenBResidualBaseUnits = 0

/-- A selected value stays. -/
def keepsSelection {α : Type} [DecidableEq α] (previous next : Option α) : Bool :=
  previous.isNone || previous = next

/-- The checks on a record of a trade that the journal has already. -/
def checkTransition (previous operation : TradeOperation) : Except String Unit := do
  let correction := operatorTerminalCorrectionAllowed previous operation
  require (previous.intent = operation.intent) "trade journal intent changed"
  require (previous.stage.terminal = false ∨ correction = true) "trade is already terminal"
  require (correction = true ∨ stageTransitionAllowed previous.stage operation.stage = true)
    "illegal parent trade stage transition"
  require (previous.dexDispatched = false ∨ operation.dexDispatched = true) "DEX dispatch regressed"
  require (previous.cexDispatched = false ∨ operation.cexDispatched = true) "CEX dispatch regressed"
  require (keepsSelection previous.cexExecutionLimitPrice operation.cexExecutionLimitPrice = true)
    "selected primary CEX limit price changed"
  require (keepsSelection previous.recoveryTargetTokenBDeltaBaseUnits
      operation.recoveryTargetTokenBDeltaBaseUnits = true)
    "selected recovery target changed"
  require (correction = true ∨
      resultIsUnchangedOrReconciled previous.dexResult operation.dexResult = true)
    "DEX result changed without unknown-outcome reconciliation"
  require (resultIsUnchangedOrReconciled previous.cexResult operation.cexResult = true)
    "CEX result changed without unknown-outcome reconciliation"
  require (recoveryResultsAreAppendOnlyOrReconciled previous.recoveryResults
      operation.recoveryResults = true)
    "recovery results changed"
  require (keepsSelection previous.operatorRecovery operation.operatorRecovery = true)
    "operator recovery evidence changed"

/-- The checks against the trade's state before the record. -/
def checkSnapshot (previous : Option TradeOperation) (operation : TradeOperation) :
    Except String Unit :=
  match previous with
  | some previous => checkTransition previous operation
  | none => require (operation.stage = .prepared) "first trade state must be prepared"

def applySnapshot (operations : Operations) (operation : TradeOperation) :
    Except String Operations := do
  validateOperation operation
  checkSnapshot (operations.get? operation.planId) operation
  return operations.put operation

/-! ## The journal in memory -/

structure WirePayload where
  sequence : Nat
  recordedAtUnixMs : Nat
  operation : TradeOperation
  deriving DecidableEq

/-- The trades with what is counted of them: those still active, and the unresolved ones of each
strategy. -/
structure TradeState where
  operations : Operations
  activeOperationCount : Nat
  unresolvedByStrategy : TreeMap String Nat

/-- The strategy of a trade whose exposure is unresolved. -/
def unresolvedStrategyId (operation : TradeOperation) : Option String :=
  if operation.stage = .unknownExposure ∨ operation.stage = .halted then
    operation.intent.journalScope.map TradeJournalScope.strategyId
  else none

def addUnresolved (index : TreeMap String Nat) (strategyId : String) : TreeMap String Nat :=
  index.insert strategyId (saturateNat 64 (index.getD strategyId 0 + 1))

def removeUnresolved (index : TreeMap String Nat) (strategyId : String) :
    TreeMap String Nat :=
  match index[strategyId]? with
  | some count => if count - 1 = 0 then index.erase strategyId else index.insert strategyId (count - 1)
  | none => index

def unresolvedStrategyIndex (operations : Operations) : TreeMap String Nat :=
  (operations.values.filterMap unresolvedStrategyId).foldl addUnresolved ∅

def updateUnresolvedStrategyIndex (index : TreeMap String Nat)
    (previous : Option TradeOperation) (next : TradeOperation) : TreeMap String Nat :=
  let index := ((previous.bind unresolvedStrategyId).map (removeUnresolved index)).getD index
  ((unresolvedStrategyId next).map (addUnresolved index)).getD index

def TradeOperation.active (operation : TradeOperation) : Bool :=
  !operation.stage.terminal

def nextActiveOperationCount (count : Nat) (previous : Option TradeOperation)
    (next : TradeOperation) : Except String Nat :=
  match previous.any TradeOperation.active, next.active with
  | false, true => orError (checkedAdd 64 count 1) "active trade count overflow"
  | true, false => orError (checkedSub count 1) "active trade count underflow"
  | _, _ => .ok count

def TradeState.apply (state : TradeState) (payload : WirePayload) : Except String TradeState := do
  let operation := payload.operation
  let previous := state.operations.get? operation.planId
  let operations ← applySnapshot state.operations operation
  let count ← nextActiveOperationCount state.activeOperationCount previous operation
  return ⟨operations, count, updateUnresolvedStrategyIndex state.unresolvedByStrategy previous operation⟩

def TradeState.ofOperations (operations : Operations) : TradeState where
  operations := operations
  activeOperationCount := (operations.values.filter TradeOperation.active).length
  unresolvedByStrategy := unresolvedStrategyIndex operations

/-- The trade as it is read back: the receipt's events of its results are not journaled. -/
def TradeOperation.stored (operation : TradeOperation) : TradeOperation :=
  { operation with
    dexResult := operation.dexResult.map LegResult.stored
    cexResult := operation.cexResult.map LegResult.stored
    recoveryResults := operation.recoveryResults.map LegResult.stored }

theorem TradeOperation.stored_stored (op : TradeOperation) :
    op.stored.stored = op.stored := by
  simp only [TradeOperation.stored, Option.map_map, List.map_map]
  rfl

def WirePayload.stored (payload : WirePayload) : WirePayload :=
  { payload with operation := payload.operation.stored }

/-- The journal's limits and error texts, for a state that takes its records with `apply`. -/
def tradeFormat {σ : Type} (init : σ) (apply : σ → WirePayload → Except String σ) :
    AppendLog.Format σ WirePayload String where
  init := init
  apply := apply
  stored := WirePayload.stored
  sequence := WirePayload.sequence
  lineLimit := 64 * 1024
  poisonedError := "trade journal is poisoned"
  clockError := "system time is before Unix epoch"
  encodeError := "failed to encode trade journal"
  tooLargeError := "trade journal record is too large"
  writeError := "failed to durably append trade journal record"
  overflowError := "trade journal sequence overflow"
  sequenceError := fun _ _ => "trade journal sequence mismatch"
  tornError := "trade journal ends with a partial record"

/-- The journal being read back: the trades alone. -/
def openFormat : AppendLog.Format Operations WirePayload String :=
  tradeFormat KeyedMap.empty fun operations payload => applySnapshot operations payload.operation

/-- The journal being written: the counts follow each record. -/
def appendFormat : AppendLog.Format TradeState WirePayload String :=
  tradeFormat (TradeState.ofOperations KeyedMap.empty) TradeState.apply

abbrev TradeJournal := AppendLog TradeState WirePayload

abbrev TradeProc := Proc TradeJournal String

namespace TradeJournal

/-- `TradeJournal::open` on the records of a file. -/
def openFile (file : AppendLog.File WirePayload) : Except String TradeJournal := do
  let log ← AppendLog.load openFormat file
  return ⟨.ofOperations log.state, log.nextSequence, log.poisoned, log.file⟩

def operation? (journal : TradeJournal) (planId : String) : Option TradeOperation :=
  journal.state.operations.get? planId

def operation (journal : TradeJournal) (planId : String) : Except String TradeOperation :=
  orError (journal.operation? planId) s!"unknown trade plan {planId}"

def append (io : AppendLog.Io) (operation : TradeOperation) : TradeProc Unit :=
  AppendLog.append appendFormat io (validateOperation operation) fun sequence now =>
    ⟨sequence, now, operation⟩

def recordIntent (io : AppendLog.Io) (intent : TradeIntent) : TradeProc Unit := do
  let journal ← get
  Proc.ensure (journal.operation? intent.planId = none) "trade plan already exists"
  append io (.prepared intent)

end TradeJournal

/-! ## What an accepted record does -/

theorem applySnapshot_eq_ok {operations next : Operations} {op : TradeOperation} :
    applySnapshot operations op = .ok next ↔
      validateOperation op = .ok () ∧
      checkSnapshot (operations.get? op.planId) op = .ok () ∧
      next = operations.put op := by
  simp only [applySnapshot, bind_eq_ok, pure_eq_ok]
  constructor
  · rintro ⟨_, valid, _, follows, rfl⟩
    exact ⟨valid, follows, rfl⟩
  · rintro ⟨valid, follows, rfl⟩
    exact ⟨(), valid, (), follows, rfl⟩

theorem TradeState.apply_operations {state next : TradeState} {payload : WirePayload}
    (applied : state.apply payload = .ok next) :
    applySnapshot state.operations payload.operation = .ok next.operations := by
  simp only [TradeState.apply, bind_eq_ok, pure_eq_ok] at applied
  obtain ⟨operations, snapshot, _, _, rfl⟩ := applied
  exact snapshot

theorem TradeJournal.openFile_eq_ok {file : AppendLog.File WirePayload} {journal : TradeJournal}
    (opened : TradeJournal.openFile file = .ok journal) :
    AppendLog.replay openFormat file.records =
        .ok (journal.state.operations, journal.nextSequence) ∧
      journal.poisoned = false ∧ journal.file = file := by
  simp only [TradeJournal.openFile, bind_eq_ok, pure_eq_ok] at opened
  obtain ⟨log, loaded, rfl⟩ := opened
  exact AppendLog.load_eq_ok loaded

end PolyBot.Trade
