import PolyBot.Trade.Journal

/-!
# The coordinator

The coordinator decides from the journaled state of a trade which leg to send next, and journals the
new state before it returns the command.  What a call decides is a function of the trade alone and
of the clock; `amend` reads the trade, journals the decision and then returns its commands.

* `TradeOperation.takeCommands`, `recordResult`, `reconcileUnknown`, `selectPrimaryCexLimitPrice`,
  `recordOperatorRecovery`: the decisions.
* `PaperTradeCoordinator`: the calls on a journal.
* `TradeOperation.resumeCommand`: the command of a leg that was sent before a restart.
-/

namespace PolyBot.Trade

inductive CoordinatorCommand
  | dispatchDex (operationId : String) (expectedTokenBDeltaBaseUnits : Int)
      (plan : Option DexSwapPlan) (reconciliationOnly : Bool)
  | dispatchCex (clientOrderId : String) (targetTokenBDeltaBaseUnits : Int)
      (limitPrice : Option Decimal)
  | recoverCex (attempt : Nat) (targetTokenBDeltaBaseUnits : Int)
  deriving DecidableEq

/-- What a call does to a trade: the state to journal, if any, and the commands to return. -/
structure Decision where
  next : Option TradeOperation
  commands : List CoordinatorCommand

variable (now : Option Nat) (role : LegRole) (result : LegResult) (operation : TradeOperation)

namespace TradeOperation

/-! ## Commands of a trade -/

def dexCommand (reconciliationOnly : Bool) : CoordinatorCommand :=
  .dispatchDex operation.intent.dexOperationId
    (operation.intent.direction.dexTokenBDelta operation.intent.plannedTokenBBaseUnits)
    operation.intent.dexPlan reconciliationOnly

/-- The CEX target of a trade that sends both legs at once. -/
def plannedCexTarget : Int :=
  negI128 (operation.intent.direction.dexTokenBDelta operation.intent.plannedTokenBBaseUnits)

def admissionLimitPrice : Option Decimal :=
  operation.intent.admission.map AdmissionRiskBounds.cexPrimaryLimitPrice

/-- The selected price, or the one of the admission. -/
def cexLimitPrice : Option Decimal :=
  operation.cexExecutionLimitPrice.or operation.admissionLimitPrice

/-! ## `take_commands` -/

/-- A trade with an unknown leg is only marked. -/
def blockUnknown : Decision :=
  if operation.stage = .unknownExposure then ⟨none, []⟩
  else ⟨some { operation with
    stage := .unknownExposure
    blockingReason := some "venue_outcome_unknown" }, []⟩

/-- The first dispatch: the DEX leg, and the CEX leg with it when both are sent at once. -/
def dispatchPrimary : Decision :=
  let dispatched := { operation with dexDispatched := true, stage := .executing }
  match operation.intent.mode with
  | .concurrentHedged => ⟨some { dispatched with cexDispatched := true },
      [operation.dexCommand false, .dispatchCex operation.intent.cexClientOrderId
        operation.plannedCexTarget operation.admissionLimitPrice]⟩
  | .dexFirst => ⟨some dispatched, [operation.dexCommand false]⟩

/-- The CEX leg against what the DEX has filled. -/
def dispatchHedge (dex : LegResult) : Decision :=
  ⟨some { operation with cexDispatched := true },
    [.dispatchCex operation.intent.cexClientOrderId (negI128 dex.tokenBDeltaBaseUnits)
      operation.cexLimitPrice]⟩

def close : Except String Decision := do
  let closed ← finalizeBalanced operation
  return ⟨some closed, []⟩

def primaryFinished : Bool :=
  operation.dexResult.isSome && (operation.cexResult.isSome || !operation.cexDispatched)

def lastRecoveryIsRetryable : Bool :=
  operation.recoveryResults.getLast?.any LegResult.recoveryFailureIsRetryable

/-- The next attempt at the same target. -/
def retryRecovery : Except String Decision := do
  let target ← orError operation.recoveryTargetTokenBDeltaBaseUnits
    "retryable recovery has no immutable target"
  return ⟨some { operation with recoveryInflight := true, recoveryRetryNotBeforeUnixMs := none },
    [.recoverCex (operation.recoveryResults.length + 1) target]⟩

def clockError : String := "system time is before Unix epoch"

/-- After an attempt: another one when its failure allows it and the backoff is over, else the end. -/
def continueRecovery : Except String Decision :=
  if operation.lastRecoveryIsRetryable = true ∧
      operation.recoveryResults.length < maxRecoveryAttempts then do
    let notBefore ← orError operation.recoveryRetryNotBeforeUnixMs
      "retryable recovery has no persisted backoff deadline"
    let now ← orError now clockError
    if now < notBefore then .ok ⟨none, []⟩ else operation.retryRecovery
  else
    close { operation with recoveryRetryNotBeforeUnixMs := none }

def halt : Decision :=
  ⟨some { operation with
    stage := .halted
    blockingReason := some "dex_first_recovery_direction_flipped" }, []⟩

def beginRecovery (target : Int) : Decision :=
  ⟨some { operation with
      stage := .recovering
      recoveryInflight := true
      recoveryTargetTokenBDeltaBaseUnits := some target
      recoveryRetryNotBeforeUnixMs := none },
    [.recoverCex 1 target]⟩

/-- After the primary legs: the end, or a first attempt at what they left open. -/
def startRecovery : Except String Decision :=
  let target := operation.primaryRecoveryTargetTokenBDeltaBaseUnits.getD 0
  if target = 0 then operation.close
  else if operation.intent.mode = .dexFirst ∧
      dexFirstRecoveryDirectionIsValid operation.intent.direction target = false then
    .ok operation.halt
  else .ok (operation.beginRecovery target)

def takeRecovery : Except String Decision :=
  if operation.primaryFinished = true ∧ operation.recoveryInflight = false then
    if operation.recoveryResults = [] then operation.startRecovery else operation.continueRecovery now
  else .ok ⟨none, []⟩

/-- The DEX result that decides about the CEX leg of a DEX-first trade. -/
def unhedgedDexResult : Option LegResult :=
  if operation.intent.mode = .dexFirst ∧ operation.cexDispatched = false then operation.dexResult
  else none

def takeCommands : Except String Decision :=
  if operation.stage.terminal = true then .error "trade is terminal"
  else if operation.hasUnknownLeg = true then .ok operation.blockUnknown
  else if operation.dexDispatched = false then .ok operation.dispatchPrimary
  else
    match operation.unhedgedDexResult with
    | some dex =>
      if dex.status = .filled ∧ dex.tokenBDeltaBaseUnits ≠ 0 then .ok (operation.dispatchHedge dex)
      else if dex.status = .failed then operation.close
      else operation.takeRecovery now
    | none => operation.takeRecovery now

/-! ## Results -/

def recoveryRetryDelayMs (completedAttempts : Nat) : Except String Nat := do
  require (1 ≤ completedAttempts ∧ completedAttempts < maxRecoveryAttempts)
    "recovery retry attempt is outside the bounded policy"
  orError (checkedMul 64 recoveryRetryBaseDelayMs (2 ^ (completedAttempts - 1)))
    "recovery retry delay overflow"

/-- The backoff deadline after the latest attempt. -/
def retryDeadline : Except String (Option Nat) :=
  if operation.lastRecoveryIsRetryable = true ∧
      operation.recoveryResults.length < maxRecoveryAttempts then do
    let delay ← recoveryRetryDelayMs operation.recoveryResults.length
    let now ← orError now clockError
    let deadline ← orError (checkedAdd 64 now delay) "recovery retry deadline overflow"
    return some deadline
  else .ok none

def refreshRecoveryRetryDeadline : Except String TradeOperation := do
  let deadline ← operation.retryDeadline now
  return { operation with recoveryRetryNotBeforeUnixMs := deadline }

/-- The trade with the result of one of its legs. -/
def withResult : Except String TradeOperation :=
  match role with
  | .dex => do
    require (operation.dexDispatched = true) "DEX leg was not dispatched"
    require (operation.dexResult = none) "DEX result already recorded"
    return { operation with dexResult := some result }
  | .cex => do
    require (operation.cexDispatched = true) "CEX leg was not dispatched"
    require (operation.cexResult = none) "CEX result already recorded"
    return { operation with cexResult := some result }
  | .recoveryCex => do
    require (operation.recoveryInflight = true) "recovery was not dispatched"
    refreshRecoveryRetryDeadline now { operation with
      recoveryInflight := false
      recoveryResults := operation.recoveryResults ++ [result] }

def recordResult : Except String TradeOperation := do
  require (operation.stage.terminal = false) "trade is terminal"
  operation.withResult now role result

def replaceUnknown (slot : Option LegResult) (result : LegResult) :
    Except String (Option LegResult) := do
  let current ← orError slot "trade has no result to reconcile"
  require (current.status = .unknown) "venue result is not unknown"
  return some result

/-- The trade with an unknown result replaced by a proven one. -/
def withReconciled : Except String TradeOperation :=
  match role with
  | .dex => do
    require (result.status ≠ .failed ∨ result.dexFailureProvesZeroExposure = true)
      "DEX reconciliation failure does not prove a terminal zero-exposure outcome"
    let slot ← replaceUnknown operation.dexResult result
    return { operation with dexResult := slot }
  | .cex => do
    let slot ← replaceUnknown operation.cexResult result
    return { operation with cexResult := slot }
  | .recoveryCex => do
    let current ← orError operation.recoveryResults.getLast?
      "trade has no recovery result to reconcile"
    require (current.status = .unknown) "latest recovery result is not unknown"
    refreshRecoveryRetryDeadline now { operation with
      recoveryResults := operation.recoveryResults.dropLast ++ [result] }

def reconcileUnknown : Except String TradeOperation := do
  require (operation.stage = .unknownExposure)
    "trade is not waiting for unknown-outcome reconciliation"
  let reconciled ← operation.withReconciled now role result
  return { reconciled with
    stage := if reconciled.recoveryResults = [] then .executing else .recovering
    blockingReason := none }

/-- The price of the CEX leg, selected once between the DEX fill and the dispatch; the same price
again changes nothing. -/
def selectPrimaryCexLimitPrice (limitPrice : Decimal) (operation : TradeOperation) :
    Except String (Option TradeOperation) := do
  require (operation.intent.mode = .dexFirst)
    "post-DEX CEX price selection requires dex-first execution"
  require (operation.cexDispatched = false) "primary CEX leg was already dispatched"
  require (operation.dexResult.any (fun result =>
      result.status = .filled && result.tokenBDeltaBaseUnits ≠ 0) = true)
    "primary CEX price selection requires a filled DEX result"
  match operation.cexExecutionLimitPrice with
  | some selected => do
    require (selected = limitPrice) "selected primary CEX limit price changed"
    return none
  | none => return some { operation with cexExecutionLimitPrice := some limitPrice }

/-! ## The correction of an expired plan -/

/-- The checks on what the operator brings. -/
def checkOperatorEvidence (dexResult recoveryResult : LegResult)
    (evidence : OperatorRecoveryEvidence) : Except String Unit := do
  dexResult.validate
  recoveryResult.validate
  evidence.validate
  require (dexResult.status = .filled) "operator recovery DEX result is not filled"
  require (recoveryResult.status = .filled) "operator recovery Binance result is not filled"
  require (dexResult.venueReference = "dex:" ++ evidence.dexTransactionHash)
    "operator recovery DEX result does not match its transaction evidence"
  require (recoveryResult.venueReference = "cex:" ++ toString evidence.binanceOrderId)
    "operator recovery Binance result does not match its order evidence"

def recordOperatorRecovery (dexResult recoveryResult : LegResult)
    (evidence : OperatorRecoveryEvidence) (operation : TradeOperation) :
    Except String TradeOperation := do
  require (operation.operatorRecovery = none) "trade already has an operator recovery"
  require (operation.intent.mode = .dexFirst ∧ operation.dexDispatched = true ∧
      operation.cexDispatched = false ∧ operation.cexResult = none ∧
      operation.recoveryResults = [] ∧ operation.recoveryInflight = false)
    "trade is not the supported DEX-only operator recovery shape"
  require (operation.stage.terminal = true ∧ operation.dexResult.any (fun result =>
      result.status = .failed && result.venueReference = "dex:expired-plan") = true)
    "trade is not the historical false-terminal expired-plan shape"
  require (isRecoveryClientOrderId operation.intent.cexClientOrderId
      evidence.binanceClientOrderId = true)
    "operator recovery Binance client id is not deterministic"
  require (dexResult.tokenBDeltaBaseUnits ≠ 0 ∧
      recoveryResult.tokenBDeltaBaseUnits = saturateInt 128 (-dexResult.tokenBDeltaBaseUnits))
    "operator recovery does not exactly neutralize the DEX token-B delta"
  let closed ← finalizeBalanced { operation with
    dexResult := some dexResult
    recoveryTargetTokenBDeltaBaseUnits := some recoveryResult.tokenBDeltaBaseUnits
    recoveryResults := operation.recoveryResults ++ [recoveryResult]
    result := none
    stage := .recovering
    blockingReason := none
    operatorRecovery := some evidence }
  require (closed.tokenBResidualBaseUnits = 0) "operator recovery left a token-B residual"
  return closed

/-! ## Commands rebuilt from the journal -/

/-- The CEX target of a dispatched leg. -/
def cexTarget (missing : String) (operation : TradeOperation) : Except String Int :=
  match operation.intent.mode with
  | .dexFirst => do
    let dex ← orError operation.dexResult missing
    return negI128 dex.tokenBDeltaBaseUnits
  | .concurrentHedged => .ok operation.plannedCexTarget

/-- The command of a leg whose dispatch is journaled and whose result is missing. -/
def resumeCommand : Except String (Option CoordinatorCommand) :=
  if operation.dexDispatched = true ∧ operation.dexResult = none then do
    let now ← orError now clockError
    return some (operation.dexCommand
      (operation.intent.dexPlan.any fun plan => plan.deadlineUnixSeconds ≤ now / 1000))
  else if operation.cexDispatched = true ∧ operation.cexResult = none then do
    let target ← operation.cexTarget "dex-first CEX dispatch has no DEX result"
    return some (.dispatchCex operation.intent.cexClientOrderId target operation.cexLimitPrice)
  else if operation.recoveryInflight = true then
    .ok (some (.recoverCex (operation.recoveryResults.length + 1)
      (operation.recoveryTargetTokenBDeltaBaseUnits.getD
        (negI128 operation.actionableTokenBResidualBaseUnits))))
  else .ok none

end TradeOperation

/-! ## The calls -/

/-- The environment of one call: the clock where the call itself reads it, and the append's. -/
structure Env where
  now : Option Nat
  io : AppendLog.Io

namespace PaperTradeCoordinator

open Proc

def journalDecision (io : AppendLog.Io) : Option TradeOperation → TradeProc Unit
  | some next => TradeJournal.append io next
  | none => pure ()

/-- Reads the trade, journals what is decided about it and returns the commands. -/
def amend (io : AppendLog.Io) (planId : String) (decision : TradeOperation → Except String Decision) :
    TradeProc (List CoordinatorCommand) := do
  let journal ← get
  let operation ← lift (journal.operation planId)
  let decided ← lift (decision operation)
  journalDecision io decided.next
  return decided.commands

/-- Journals a changed trade and returns no command. -/
def amendQuietly (io : AppendLog.Io) (planId : String)
    (change : TradeOperation → Except String (Option TradeOperation)) : TradeProc Unit := do
  let _ ← amend io planId fun operation => do
    let next ← change operation
    return ⟨next, []⟩

def admitIntent (env : Env) (intent : TradeIntent) : TradeProc Unit := do
  lift intent.validate
  ensure (intent.admission.all AdmissionRiskBounds.opportunityThresholdMet = true)
    "opportunity threshold must be met before admission"
  let journal ← get
  ensure (journal.state.operations.values.all (fun operation =>
      operation.stage ≠ .prepared && operation.stage ≠ .executing && operation.stage ≠ .recovering) =
      true)
    "another trade is currently executing"
  TradeJournal.recordIntent env.io intent

section Calls

variable (env : Env) (planId : String) (role : LegRole) (result : LegResult)

def takeCommands : TradeProc (List CoordinatorCommand) :=
  amend env.io planId (TradeOperation.takeCommands env.now)

def recordResult : TradeProc Unit := do
  lift result.validate
  amendQuietly env.io planId fun operation => some <$> operation.recordResult env.now role result

def reconcileUnknown : TradeProc Unit := do
  lift result.validate
  ensure (result.status ≠ .unknown) "reconciliation must prove a terminal venue outcome"
  amendQuietly env.io planId fun operation => some <$> operation.reconcileUnknown env.now role result

def selectPrimaryCexLimitPrice (limitPrice : Decimal) : TradeProc Unit := do
  ensure (0 < limitPrice) "selected primary CEX limit price is non-positive"
  amendQuietly env.io planId (TradeOperation.selectPrimaryCexLimitPrice limitPrice)

def recordOperatorRecovery (dexResult recoveryResult : LegResult)
    (evidence : OperatorRecoveryEvidence) : TradeProc Unit := do
  lift (TradeOperation.checkOperatorEvidence dexResult recoveryResult evidence)
  amendQuietly env.io planId fun operation =>
    some <$> operation.recordOperatorRecovery dexResult recoveryResult evidence

end Calls

def resumeCommand (now : Option Nat) (journal : TradeJournal) (planId : String) :
    Except String (Option CoordinatorCommand) := do
  let operation ← journal.operation planId
  operation.resumeCommand now

end PaperTradeCoordinator

end PolyBot.Trade
