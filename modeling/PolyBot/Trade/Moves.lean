import PolyBot.Trade.Coordinator

/-!
# What a call can journal

`Move operation commands next` says once, branch by branch, what the calls of the coordinator can
journal of a trade and which commands they then return.  Every invariant of trades is shown for the
branches of `Move`.

* `takeCommands_legal`, `recordResult_move`, `reconcileUnknown_move`,
  `selectPrimaryCexLimitPrice_move`, `recordOperatorRecovery_move`: the decisions are moves.
* `Move.intent_eq`: a move keeps the intent.
-/

namespace PolyBot.Trade

open TradeOperation

/-- The legs of an open trade that is past its first dispatch and has no unknown leg. -/
structure Underway (operation : TradeOperation) : Prop where
  notTerminal : operation.stage.terminal = false
  known : operation.hasUnknownLeg = false
  dispatched : operation.dexDispatched = true

/-- The primary legs are done and no recovery is in flight. -/
structure Recoverable (operation : TradeOperation) : Prop extends Underway operation where
  finished : operation.primaryFinished = true
  idle : operation.recoveryInflight = false

/-- The trade of an expired plan that was closed by mistake. -/
structure FalselyClosed (operation : TradeOperation) : Prop where
  mode : operation.intent.mode = .dexFirst
  dexDispatched : operation.dexDispatched = true
  cexDispatched : operation.cexDispatched = false
  cexResult : operation.cexResult = none
  recoveryResults : operation.recoveryResults = []
  idle : operation.recoveryInflight = false
  terminal : operation.stage.terminal = true
  expired : operation.dexResult.any (fun result =>
    result.status = .failed && result.venueReference = "dex:expired-plan") = true

/-- The DEX leg has left nothing for Binance to hedge. -/
def Hedged (operation : TradeOperation) : Prop :=
  ∀ dex, operation.unhedgedDexResult = some dex →
    ¬(dex.status = .filled ∧ dex.tokenBDeltaBaseUnits ≠ 0)

inductive Move (operation : TradeOperation) : List CoordinatorCommand → TradeOperation → Prop
  | block (notTerminal : operation.stage.terminal = false)
      (unknown : operation.hasUnknownLeg = true) :
      Move operation [] { operation with
        stage := .unknownExposure
        blockingReason := some "venue_outcome_unknown" }
  | dispatchBoth (notTerminal : operation.stage.terminal = false)
      (known : operation.hasUnknownLeg = false) (fresh : operation.dexDispatched = false)
      (mode : operation.intent.mode = .concurrentHedged) :
      Move operation [operation.dexCommand false, .dispatchCex operation.intent.cexClientOrderId
          operation.plannedCexTarget operation.admissionLimitPrice]
        { operation with dexDispatched := true, stage := .executing, cexDispatched := true }
  | dispatchDex (notTerminal : operation.stage.terminal = false)
      (known : operation.hasUnknownLeg = false) (fresh : operation.dexDispatched = false)
      (mode : operation.intent.mode = .dexFirst) :
      Move operation [operation.dexCommand false]
        { operation with dexDispatched := true, stage := .executing }
  | hedge (underway : Underway operation) (mode : operation.intent.mode = .dexFirst)
      (unhedged : operation.cexDispatched = false) {dex : LegResult}
      (result : operation.dexResult = some dex) (filled : dex.status = .filled)
      (nonzero : dex.tokenBDeltaBaseUnits ≠ 0) :
      Move operation [.dispatchCex operation.intent.cexClientOrderId
          (negI128 dex.tokenBDeltaBaseUnits) operation.cexLimitPrice]
        { operation with cexDispatched := true }
  | closeUnhedged (underway : Underway operation) (mode : operation.intent.mode = .dexFirst)
      (unhedged : operation.cexDispatched = false) {dex : LegResult}
      (result : operation.dexResult = some dex) (failed : dex.status = .failed)
      {next : TradeOperation} (closed : finalizeBalanced operation = .ok next) :
      Move operation [] next
  | closeMatched (recoverable : Recoverable operation) (unrecovered : operation.recoveryResults = [])
      (matched : operation.primaryRecoveryTargetTokenBDeltaBaseUnits.getD 0 = 0)
      (hedged : Hedged operation)
      {next : TradeOperation} (closed : finalizeBalanced operation = .ok next) :
      Move operation [] next
  | closeRecovered (recoverable : Recoverable operation) (recovered : operation.recoveryResults ≠ [])
      {next : TradeOperation}
      (closed : finalizeBalanced { operation with recoveryRetryNotBeforeUnixMs := none } = .ok next) :
      Move operation [] next
  | halt (recoverable : Recoverable operation) (unrecovered : operation.recoveryResults = [])
      {target : Int} (isTarget : operation.primaryRecoveryTargetTokenBDeltaBaseUnits = some target)
      (nonzero : target ≠ 0) (mode : operation.intent.mode = .dexFirst)
      (flipped : dexFirstRecoveryDirectionIsValid operation.intent.direction target = false) :
      Move operation [] { operation with
        stage := .halted
        blockingReason := some "dex_first_recovery_direction_flipped" }
  | beginRecovery (recoverable : Recoverable operation) (unrecovered : operation.recoveryResults = [])
      {target : Int} (isTarget : operation.primaryRecoveryTargetTokenBDeltaBaseUnits = some target)
      (nonzero : target ≠ 0)
      (straight : operation.intent.mode = .dexFirst →
        dexFirstRecoveryDirectionIsValid operation.intent.direction target = true) :
      Move operation [.recoverCex 1 target] { operation with
        stage := .recovering
        recoveryInflight := true
        recoveryTargetTokenBDeltaBaseUnits := some target
        recoveryRetryNotBeforeUnixMs := none }
  | retryRecovery (recoverable : Recoverable operation)
      (retryable : operation.lastRecoveryIsRetryable = true)
      (left : operation.recoveryResults.length < maxRecoveryAttempts) {target : Int}
      (isTarget : operation.recoveryTargetTokenBDeltaBaseUnits = some target) :
      Move operation [.recoverCex (operation.recoveryResults.length + 1) target]
        { operation with recoveryInflight := true, recoveryRetryNotBeforeUnixMs := none }
  | recordDex (notTerminal : operation.stage.terminal = false)
      (dispatched : operation.dexDispatched = true) (missing : operation.dexResult = none)
      (result : LegResult) :
      Move operation [] { operation with dexResult := some result }
  | recordCex (notTerminal : operation.stage.terminal = false)
      (dispatched : operation.cexDispatched = true) (missing : operation.cexResult = none)
      (result : LegResult) :
      Move operation [] { operation with cexResult := some result }
  | recordRecovery (notTerminal : operation.stage.terminal = false)
      (inflight : operation.recoveryInflight = true) (result : LegResult) {deadline : Option Nat}
      {now : Option Nat} (refreshed : retryDeadline now { operation with
        recoveryInflight := false
        recoveryResults := operation.recoveryResults ++ [result] } = .ok deadline) :
      Move operation [] { operation with
        recoveryInflight := false
        recoveryResults := operation.recoveryResults ++ [result]
        recoveryRetryNotBeforeUnixMs := deadline }
  | reconcileDex (waiting : operation.stage = .unknownExposure) {unknown : LegResult}
      (isUnknown : operation.dexResult = some unknown) (status : unknown.status = .unknown)
      {result : LegResult} (proven : result.status ≠ .unknown)
      (proof : result.status ≠ .failed ∨ result.dexFailureProvesZeroExposure = true) :
      Move operation [] { operation with
        dexResult := some result
        stage := if operation.recoveryResults = [] then .executing else .recovering
        blockingReason := none }
  | reconcileCex (waiting : operation.stage = .unknownExposure) {unknown : LegResult}
      (isUnknown : operation.cexResult = some unknown) (status : unknown.status = .unknown)
      {result : LegResult} (proven : result.status ≠ .unknown) :
      Move operation [] { operation with
        cexResult := some result
        stage := if operation.recoveryResults = [] then .executing else .recovering
        blockingReason := none }
  | reconcileRecovery (waiting : operation.stage = .unknownExposure) {unknown : LegResult}
      (isUnknown : operation.recoveryResults.getLast? = some unknown)
      (status : unknown.status = .unknown) {result : LegResult} (proven : result.status ≠ .unknown)
      {deadline now : Option Nat} (refreshed : retryDeadline now { operation with
        recoveryResults := operation.recoveryResults.dropLast ++ [result] } = .ok deadline) :
      Move operation [] { operation with
        recoveryResults := operation.recoveryResults.dropLast ++ [result]
        recoveryRetryNotBeforeUnixMs := deadline
        stage := .recovering
        blockingReason := none }
  | select (mode : operation.intent.mode = .dexFirst) (unhedged : operation.cexDispatched = false)
      (unselected : operation.cexExecutionLimitPrice = none) (limitPrice : Decimal) :
      Move operation [] { operation with cexExecutionLimitPrice := some limitPrice }
  | correct (shape : FalselyClosed operation) {dexResult recoveryResult : LegResult}
      (evidence : OperatorRecoveryEvidence) {next : TradeOperation}
      (closed : finalizeBalanced { operation with
        dexResult := some dexResult
        recoveryTargetTokenBDeltaBaseUnits := some recoveryResult.tokenBDeltaBaseUnits
        recoveryResults := [recoveryResult]
        result := none
        stage := .recovering
        blockingReason := none
        operatorRecovery := some evidence } = .ok next) :
      Move operation [] next

/-- A decision that journals nothing returns no command, and any other is a move. -/
def Decision.Legal (operation : TradeOperation) (decided : Decision) : Prop :=
  match decided.next with
  | none => decided.commands = []
  | some next => Move operation decided.commands next

section Decisions

variable {op next : TradeOperation} {decided : Decision} {now : Option Nat}

theorem close_eq_ok (closed : op.close = .ok decided) :
    ∃ next, finalizeBalanced op = .ok next ∧ decided = ⟨some next, []⟩ := by
  simp only [close, bind_eq_ok, pure_eq_ok] at closed
  obtain ⟨next, finalized, rfl⟩ := closed
  exact ⟨next, finalized, rfl⟩

theorem startRecovery_legal (recoverable : Recoverable op)
    (unrecovered : op.recoveryResults = []) (hedged : Hedged op)
    (started : op.startRecovery = .ok decided) : decided.Legal op := by
  simp only [startRecovery] at started
  split at started
  · rename_i matched
    obtain ⟨next, finalized, rfl⟩ := close_eq_ok started
    exact .closeMatched recoverable unrecovered matched hedged finalized
  · rename_i nonzero
    -- a target other than zero is not the default
    cases isTarget : op.primaryRecoveryTargetTokenBDeltaBaseUnits with
    | none =>
      rw [isTarget] at nonzero
      exact absurd rfl nonzero
    | some target =>
      simp only [isTarget, Option.getD_some] at started nonzero
      split at started
      · rename_i flipped
        cases started
        exact .halt recoverable unrecovered isTarget nonzero flipped.1 flipped.2
      · rename_i straight
        cases started
        refine .beginRecovery recoverable unrecovered isTarget nonzero fun mode => ?_
        simpa [mode] using straight

theorem continueRecovery_legal (recoverable : Recoverable op)
    (recovered : op.recoveryResults ≠ [])
    (continued : op.continueRecovery now = .ok decided) : decided.Legal op := by
  unfold continueRecovery at continued
  split at continued
  · rename_i again
    simp only [bind_eq_ok, orError_eq_ok] at continued
    obtain ⟨notBefore, _, now, _, continued⟩ := continued
    split at continued
    · cases continued
      rfl
    · simp only [retryRecovery, bind_eq_ok, orError_eq_ok, pure_eq_ok] at continued
      obtain ⟨target, isTarget, rfl⟩ := continued
      exact .retryRecovery recoverable again.1 again.2 isTarget
  · obtain ⟨next, finalized, rfl⟩ := close_eq_ok continued
    exact .closeRecovered recoverable recovered finalized

theorem takeRecovery_legal (underway : Underway op) (hedged : Hedged op)
    (taken : op.takeRecovery now = .ok decided) : decided.Legal op := by
  unfold takeRecovery at taken
  split at taken
  · rename_i ready
    have recoverable : Recoverable op := ⟨underway, ready.1, ready.2⟩
    split at taken
    · rename_i unrecovered
      exact startRecovery_legal recoverable unrecovered hedged taken
    · rename_i recovered
      exact continueRecovery_legal recoverable recovered taken
  · cases taken
    rfl

theorem unhedgedDexResult_eq_some {dex : LegResult} :
    op.unhedgedDexResult = some dex ↔
      (op.intent.mode = .dexFirst ∧ op.cexDispatched = false) ∧
        op.dexResult = some dex := by
  unfold unhedgedDexResult
  split <;> simp_all

theorem takeCommands_legal (taken : op.takeCommands now = .ok decided) :
    decided.Legal op := by
  unfold takeCommands at taken
  split at taken
  · cases taken
  rename_i notTerminal
  rw [Bool.not_eq_true] at notTerminal
  split at taken
  · rename_i unknown
    simp only [blockUnknown] at taken
    split at taken
    · cases taken
      rfl
    · cases taken
      exact .block notTerminal unknown
  rename_i known
  rw [Bool.not_eq_true] at known
  split at taken
  · rename_i fresh
    simp only [dispatchPrimary] at taken
    split at taken
    · rename_i mode
      cases taken
      exact .dispatchBoth notTerminal known fresh mode
    · rename_i mode
      cases taken
      exact .dispatchDex notTerminal known fresh mode
  rename_i dispatched
  rw [Bool.not_eq_false] at dispatched
  have underway : Underway op := ⟨notTerminal, known, dispatched⟩
  split at taken
  · rename_i dex isUnhedged
    obtain ⟨⟨mode, unhedged⟩, result⟩ := unhedgedDexResult_eq_some.mp isUnhedged
    split at taken
    · rename_i filled
      cases taken
      exact .hedge underway mode unhedged result filled.1 filled.2
    · rename_i unfilled
      split at taken
      · rename_i failed
        obtain ⟨next, finalized, rfl⟩ := close_eq_ok taken
        exact .closeUnhedged underway mode unhedged result failed finalized
      · refine takeRecovery_legal underway (fun other isOther => ?_) taken
        rw [isUnhedged] at isOther
        cases isOther
        exact unfilled
  · rename_i noneUnhedged
    refine takeRecovery_legal underway (fun other isOther => ?_) taken
    rw [noneUnhedged] at isOther
    cases isOther

theorem refreshRecoveryRetryDeadline_eq_ok
    (refreshed : op.refreshRecoveryRetryDeadline now = .ok next) :
    ∃ deadline, op.retryDeadline now = .ok deadline ∧
      next = { op with recoveryRetryNotBeforeUnixMs := deadline } := by
  simp only [refreshRecoveryRetryDeadline, bind_eq_ok, pure_eq_ok] at refreshed
  obtain ⟨deadline, computed, rfl⟩ := refreshed
  exact ⟨deadline, computed, rfl⟩

variable {result : LegResult} {role : LegRole}

theorem recordResult_move (recorded : op.recordResult now role result = .ok next) :
    Move op [] next := by
  simp only [recordResult, bind_eq_ok, require_eq_ok] at recorded
  obtain ⟨_, notTerminal, added⟩ := recorded
  cases role with
  | dex =>
    simp only [withResult, bind_eq_ok, require_eq_ok, pure_eq_ok] at added
    obtain ⟨_, dispatched, _, missing, rfl⟩ := added
    exact .recordDex notTerminal dispatched missing result
  | cex =>
    simp only [withResult, bind_eq_ok, require_eq_ok, pure_eq_ok] at added
    obtain ⟨_, dispatched, _, missing, rfl⟩ := added
    exact .recordCex notTerminal dispatched missing result
  | recoveryCex =>
    simp only [withResult, bind_eq_ok, require_eq_ok] at added
    obtain ⟨_, inflight, refreshed⟩ := added
    obtain ⟨deadline, computed, rfl⟩ := refreshRecoveryRetryDeadline_eq_ok refreshed
    exact .recordRecovery notTerminal inflight result computed

theorem replaceUnknown_eq_ok {slot replaced : Option LegResult}
    (done : replaceUnknown slot result = .ok replaced) :
    ∃ current, slot = some current ∧ current.status = .unknown ∧ replaced = some result := by
  simp only [replaceUnknown, bind_eq_ok, orError_eq_ok, require_eq_ok,
    pure_eq_ok] at done
  obtain ⟨current, isCurrent, _, unknown, rfl⟩ := done
  exact ⟨current, isCurrent, unknown, rfl⟩

theorem reconcileUnknown_move (proven : result.status ≠ .unknown)
    (reconciled : op.reconcileUnknown now role result = .ok next) : Move op [] next := by
  simp only [reconcileUnknown, bind_eq_ok, require_eq_ok, pure_eq_ok] at reconciled
  obtain ⟨_, waiting, changed, replaced, rfl⟩ := reconciled
  cases role with
  | dex =>
    simp only [withReconciled, bind_eq_ok, require_eq_ok, pure_eq_ok] at replaced
    obtain ⟨_, proof, _, slot, rfl⟩ := replaced
    obtain ⟨unknown, isUnknown, status, rfl⟩ := replaceUnknown_eq_ok slot
    exact .reconcileDex waiting isUnknown status proven proof
  | cex =>
    simp only [withReconciled, bind_eq_ok, pure_eq_ok] at replaced
    obtain ⟨_, slot, rfl⟩ := replaced
    obtain ⟨unknown, isUnknown, status, rfl⟩ := replaceUnknown_eq_ok slot
    exact .reconcileCex waiting isUnknown status proven
  | recoveryCex =>
    simp only [withReconciled, bind_eq_ok, orError_eq_ok, require_eq_ok] at replaced
    obtain ⟨unknown, isUnknown, _, status, refreshed⟩ := replaced
    obtain ⟨deadline, computed, rfl⟩ := refreshRecoveryRetryDeadline_eq_ok refreshed
    have nonempty : op.recoveryResults.dropLast ++ [result] ≠ [] := by simp
    rw [if_neg nonempty]
    exact .reconcileRecovery waiting isUnknown status proven computed

theorem selectPrimaryCexLimitPrice_move {limitPrice : Decimal}
    (selected : op.selectPrimaryCexLimitPrice limitPrice = .ok (some next)) :
    Move op [] next := by
  simp only [selectPrimaryCexLimitPrice, bind_eq_ok, require_eq_ok] at selected
  obtain ⟨_, mode, _, unhedged, _, _, selected⟩ := selected
  split at selected
  · simp only [bind_eq_ok, pure_eq_ok] at selected
    obtain ⟨_, _, made⟩ := selected
    cases made
  · rename_i unselected
    simp only [pure_eq_ok] at selected
    cases selected
    exact .select mode unhedged unselected limitPrice

theorem recordOperatorRecovery_move {dexResult recoveryResult : LegResult}
    {evidence : OperatorRecoveryEvidence}
    (recovered : op.recordOperatorRecovery dexResult recoveryResult evidence = .ok next) :
    Move op [] next := by
  simp only [recordOperatorRecovery, bind_eq_ok, require_eq_ok,
    pure_eq_ok] at recovered
  obtain ⟨_, _, _, ⟨mode, dispatched, unhedged, noCex, unrecovered, idle⟩, _, ⟨terminal, expired⟩, _,
    _, _, _, closed, finalized, _, _, rfl⟩ := recovered
  rw [unrecovered, List.nil_append] at finalized
  exact .correct ⟨mode, dispatched, unhedged, noCex, unrecovered, idle, terminal, expired⟩ evidence
    finalized

end Decisions

section Closing

variable {op next : TradeOperation} {commands : List CoordinatorCommand}

/-- What closing a trade leaves of it: all but its stage and its result. -/
theorem finalizeBalanced_eq_ok (finalized : finalizeBalanced op = .ok next) :
    checkFinalizable op = .ok () ∧ ∃ stage result, stage.terminal = true ∧
      next = { op with stage := stage, result := some result } := by
  simp only [finalizeBalanced, bind_eq_ok, pure_eq_ok] at finalized
  obtain ⟨_, finalizable, _, _, _, _, rfl⟩ := finalized
  refine ⟨finalizable, _, _, ?_, rfl⟩
  split <;> rfl

theorem Move.intent_eq (move : Move op commands next) : next.intent = op.intent := by
  cases move with
  | closeUnhedged _ _ _ _ _ closed | closeMatched _ _ _ _ closed | closeRecovered _ _ closed
  | correct _ _ closed =>
    obtain ⟨_, _, _, _, rfl⟩ := finalizeBalanced_eq_ok closed
    rfl
  | _ => rfl

end Closing

end PolyBot.Trade
