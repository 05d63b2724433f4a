import PolyBot.Trade.Sessions

/-!
# The shape of a trade

The flags and results of a trade depend on each other: a leg with a result was dispatched, the CEX leg
of a DEX-first trade follows a filled DEX leg, a recovery follows the primary legs and only a failure
that may be repeated, and a halted trade cannot move again.

* `Shape.move`: every move keeps the shape.
* `Shape.stored`: so does the way through the file.
* `Shape.halted_move`: the only move of a halted trade leaves it halted.
-/

namespace PolyBot.Trade

open TradeOperation

/-- The recoveries that are journaled as dispatched. -/
def TradeOperation.attempts (operation : TradeOperation) : Nat :=
  operation.recoveryResults.length + operation.recoveryInflight.toNat

/-- A DEX-first trade whose recovery would trade in the direction of its DEX leg. -/
structure Stuck (operation : TradeOperation) : Prop where
  known : operation.hasUnknownLeg = false
  dispatched : operation.dexDispatched = true
  idle : operation.recoveryInflight = false
  unrecovered : operation.recoveryResults = []
  mode : operation.intent.mode = .dexFirst
  flipped : ∃ target, operation.primaryRecoveryTargetTokenBDeltaBaseUnits = some target ∧
    target ≠ 0 ∧ dexFirstRecoveryDirectionIsValid operation.intent.direction target = false

/-- A failed leg has moved nothing. -/
def FailedLegsMoveNothing (operation : TradeOperation) : Prop :=
  ∀ result ∈ operation.legResults, result.status = .failed →
    result.tokenBDeltaBaseUnits = 0 ∧ result.tokenADeltaBaseUnits = 0 ∧
      executedDelta result = 0

/-- How the flags, the results and the stage of a trade depend on each other. -/
structure Shape (operation : TradeOperation) : Prop where
  intent : operation.intent.validate = .ok ()
  failed : FailedLegsMoveNothing operation
  dexResult : operation.dexResult.isSome = true → operation.dexDispatched = true
  cexResult : operation.cexResult.isSome = true → operation.cexDispatched = true
  cexAfterDex : operation.cexDispatched = true → operation.dexDispatched = true
  together : operation.intent.mode = .concurrentHedged → operation.dexDispatched = true →
    operation.cexDispatched = true
  unpriced : operation.intent.mode = .concurrentHedged → operation.cexExecutionLimitPrice = none
  hedged : operation.intent.mode = .dexFirst → operation.cexDispatched = true →
    ∃ dex, operation.dexResult = some dex ∧ dex.status = .filled ∧ dex.tokenBDeltaBaseUnits ≠ 0
  recovered : operation.attempts ≠ 0 → operation.dexResult.isSome = true ∧
    operation.recoveryTargetTokenBDeltaBaseUnits.isSome = true ∧
      (operation.cexResult.isSome = true ∨
        operation.cexDispatched = false ∧ operation.stage.terminal = true)
  inflight : operation.recoveryInflight = true → ∀ result ∈ operation.recoveryResults,
    result.recoveryFailureIsRetryable = true
  retried : ∀ result ∈ operation.recoveryResults.dropLast, result.recoveryFailureIsRetryable = true
  bounded : operation.attempts ≤ maxRecoveryAttempts
  halted : operation.stage = .halted → Stuck operation

/-! ## What the journal's checks give -/

theorem LegResult.failed_of_validate {result : LegResult} (valid : result.validate = .ok ())
    (failed : result.status = .failed) :
    result.tokenBDeltaBaseUnits = 0 ∧ result.tokenADeltaBaseUnits = 0 ∧
      executedDelta result = 0 := by
  simp only [LegResult.validate, bind_eq_ok, require_eq_ok] at valid
  obtain ⟨_, _, _, unchanged, _, unexecuted, _⟩ := valid
  obtain ⟨tokenB, tokenA, _⟩ := unchanged failed
  refine ⟨tokenB, tokenA, ?_⟩
  have executed := unexecuted failed
  unfold executedDelta
  cases isExecuted : result.executedTokenBDeltaBaseUnits with
  | none => exact tokenB
  | some amount => simpa [isExecuted] using executed

variable {op : TradeOperation}

theorem validateOperation_spec (valid : validateOperation op = .ok ()) :
    op.intent.validate = .ok () ∧ ∀ result ∈ op.legResults, result.validate = .ok () := by
  simp only [validateOperation, bind_eq_ok, require_eq_ok, forM_eq_ok] at valid
  obtain ⟨_, intent, _, _, _, _, _, legs, _⟩ := valid
  exact ⟨intent, legs⟩

theorem failed_of_validateOperation (valid : validateOperation op = .ok ()) :
    FailedLegsMoveNothing op := by
  intro result mem
  exact LegResult.failed_of_validate ((validateOperation_spec valid).2 result mem)

/-! ## The shape is kept -/

theorem Shape.prepared {intent : TradeIntent} (valid : intent.validate = .ok ()) :
    Shape (.prepared intent) where
  intent := valid
  failed := List.forall_mem_nil _
  dexResult := nofun
  cexResult := nofun
  cexAfterDex := nofun
  together := fun _ dispatched => Bool.noConfusion dispatched
  unpriced := fun _ => rfl
  hedged := fun _ dispatched => Bool.noConfusion dispatched
  recovered := fun attempted => absurd rfl attempted
  inflight := nofun
  retried := List.forall_mem_nil _
  bounded := Nat.zero_le _
  halted := nofun

section Moves

variable {op next : TradeOperation} {commands : List CoordinatorCommand} {target : Int}
  {result unknown : LegResult} {stage : TradeStage}

/-- A recovery has a target only after both primary legs. -/
theorem results_of_target
    (isTarget : op.primaryRecoveryTargetTokenBDeltaBaseUnits = some target) :
    op.dexResult.isSome = true ∧ op.cexResult.isSome = true := by
  unfold primaryRecoveryTargetTokenBDeltaBaseUnits at isTarget
  cases isDex : op.dexResult with
  | none => simp [isDex] at isTarget
  | some dex =>
    cases isCex : op.cexResult with
    | none => simp [isDex, isCex] at isTarget
    | some cex => exact ⟨rfl, rfl⟩

theorem Stuck.results (stuck : Stuck op) :
    op.dexResult.isSome = true ∧ op.cexResult.isSome = true := by
  obtain ⟨target, isTarget, _⟩ := stuck.flipped
  exact results_of_target isTarget

theorem lastRecoveryIsRetryable_iff : op.lastRecoveryIsRetryable = true ↔
    ∃ result, op.recoveryResults.getLast? = some result ∧
      result.recoveryFailureIsRetryable = true := by
  unfold lastRecoveryIsRetryable
  cases op.recoveryResults.getLast? <;> simp

/-- The only move of a halted trade leaves it halted and emits nothing. -/
theorem Shape.halted_move (shape : Shape op) (halted : op.stage = .halted)
    (move : Move op commands next) : commands = [] ∧ next.stage = .halted := by
  have stuck := shape.halted halted
  obtain ⟨dexSome, cexSome⟩ := stuck.results
  have cexDispatched := shape.cexResult cexSome
  obtain ⟨target, isTarget, nonzero, flipped⟩ := stuck.flipped
  cases move with
  | halt => exact ⟨rfl, rfl⟩
  | block _ unknown =>
    rw [stuck.known] at unknown
    cases unknown
  | dispatchBoth _ _ fresh _ | dispatchDex _ _ fresh _ =>
    rw [stuck.dispatched] at fresh
    cases fresh
  | hedge _ _ unhedged _ _ _ | closeUnhedged _ _ unhedged _ _ _ | select _ unhedged _ _ =>
    rw [cexDispatched] at unhedged
    cases unhedged
  | closeMatched _ _ matched _ _ =>
    rw [isTarget] at matched
    exact absurd matched nonzero
  | closeRecovered _ recovered _ => exact absurd stuck.unrecovered recovered
  | beginRecovery _ _ isTarget' _ straight =>
    rw [isTarget] at isTarget'
    cases isTarget'
    have valid := straight stuck.mode
    rw [flipped] at valid
    cases valid
  | retryRecovery _ retryable _ _ =>
    obtain ⟨result, isLast, _⟩ := lastRecoveryIsRetryable_iff.mp retryable
    rw [stuck.unrecovered] at isLast
    cases isLast
  | recordDex _ _ missing _ =>
    rw [missing] at dexSome
    cases dexSome
  | recordCex _ _ missing _ =>
    rw [missing] at cexSome
    cases cexSome
  | recordRecovery _ inflight _ _ =>
    rw [stuck.idle] at inflight
    cases inflight
  | reconcileDex waiting _ _ _ _ | reconcileCex waiting _ _ _ | reconcileRecovery waiting _ _ _ _ =>
    rw [halted] at waiting
    cases waiting
  | correct falsely _ _ =>
    have terminal := falsely.terminal
    rw [halted] at terminal
    cases terminal

theorem retryable_ne_unknown (retryable : result.recoveryFailureIsRetryable = true) :
    result.status ≠ .unknown := by
  intro unknown
  simp [LegResult.recoveryFailureIsRetryable, unknown] at retryable

theorem mem_dropLast_or_eq {α : Type} {xs : List α} {last x : α} (isLast : xs.getLast? = some last)
    (mem : x ∈ xs) : x ∈ xs.dropLast ∨ x = last := by
  obtain ⟨front, rfl⟩ := List.getLast?_eq_some_iff.mp isLast
  simpa using mem

section

variable (shape : Shape op)
include shape

/-- Before its first dispatch a trade has no result and no recovery. -/
theorem Shape.unattempted (fresh : op.dexDispatched = false) :
    op.cexDispatched = false ∧ op.attempts = 0 := by
  constructor
  · by_contra dispatched
    rw [Bool.not_eq_false] at dispatched
    rw [shape.cexAfterDex dispatched] at fresh
    cases fresh
  · by_contra attempted
    have dispatched := shape.dexResult (shape.recovered attempted).1
    rw [dispatched] at fresh
    cases fresh

/-- An open trade without its CEX leg has no recovery and is not halted. -/
theorem Shape.unhedged (notTerminal : op.stage.terminal = false)
    (unhedged : op.cexDispatched = false) :
    op.attempts = 0 ∧ op.stage ≠ .halted := by
  have noResult : ¬op.cexResult.isSome = true := by
    intro isSome
    rw [shape.cexResult isSome] at unhedged
    cases unhedged
  constructor
  · by_contra attempted
    rcases (shape.recovered attempted).2.2 with isSome | ⟨_, terminal⟩
    · exact noResult isSome
    · rw [notTerminal] at terminal
      cases terminal
  · exact fun halted => noResult (shape.halted halted).results.2

/-- A change of the fields outside the legs that does not halt the trade. -/
theorem Shape.restage (notHalted : stage ≠ .halted)
    (open_ : op.stage.terminal = false ∨ stage.terminal = true) (deadline : Option Nat)
    (result : Option ArbitrageResult) (reason : Option String) :
    Shape { op with
      stage := stage
      recoveryRetryNotBeforeUnixMs := deadline
      result := result
      blockingReason := reason } := by
  refine { shape with
    recovered := fun attempted => ?_
    halted := fun halted => absurd halted notHalted }
  obtain ⟨dex, target, cex⟩ := shape.recovered attempted
  refine ⟨dex, target, ?_⟩
  rcases cex with cex | ⟨undispatched, terminal⟩
  · exact Or.inl cex
  · rcases open_ with open_ | closed
    · rw [open_] at terminal
      cases terminal
    · exact Or.inr ⟨undispatched, closed⟩

theorem Shape.closed (deadline : Option Nat)
    (finalized : finalizeBalanced { op with recoveryRetryNotBeforeUnixMs := deadline } =
      .ok next) : Shape next := by
  obtain ⟨_, stage, result, terminal, rfl⟩ := finalizeBalanced_eq_ok finalized
  refine shape.restage ?_ (Or.inr terminal) deadline (some result) op.blockingReason
  rintro rfl
  cases terminal

theorem Shape.dispatchBoth (fresh : op.dexDispatched = false)
    (mode : op.intent.mode = .concurrentHedged) :
    Shape { op with dexDispatched := true, stage := .executing, cexDispatched := true } := by
  obtain ⟨_, unattempted⟩ := shape.unattempted fresh
  refine { shape with
    dexResult := fun _ => rfl
    cexResult := fun _ => rfl
    cexAfterDex := fun _ => rfl
    together := fun _ _ => rfl
    hedged := fun first => ?_
    recovered := fun attempted => absurd unattempted attempted
    halted := nofun }
  rw [show op.intent.mode = .dexFirst from first] at mode
  cases mode

theorem Shape.dispatchDex (fresh : op.dexDispatched = false)
    (mode : op.intent.mode = .dexFirst) :
    Shape { op with dexDispatched := true, stage := .executing } := by
  obtain ⟨unhedged, unattempted⟩ := shape.unattempted fresh
  refine { shape with
    dexResult := fun _ => rfl
    cexAfterDex := fun _ => rfl
    together := fun both => ?_
    recovered := fun attempted => absurd unattempted attempted
    halted := nofun }
  rw [show op.intent.mode = .concurrentHedged from both] at mode
  cases mode

theorem Shape.hedge (underway : Underway op) (unhedged : op.cexDispatched = false)
    {dex : LegResult} (result : op.dexResult = some dex) (filled : dex.status = .filled)
    (nonzero : dex.tokenBDeltaBaseUnits ≠ 0) : Shape { op with cexDispatched := true } := by
  obtain ⟨unattempted, notHalted⟩ := shape.unhedged underway.notTerminal unhedged
  exact { shape with
    cexResult := fun _ => rfl
    cexAfterDex := fun _ => underway.dispatched
    together := fun _ _ => rfl
    hedged := fun _ _ => ⟨dex, result, filled, nonzero⟩
    recovered := fun attempted => absurd unattempted attempted
    halted := fun halted => absurd halted notHalted }

theorem Shape.halt (recoverable : Recoverable op)
    (unrecovered : op.recoveryResults = [])
    (isTarget : op.primaryRecoveryTargetTokenBDeltaBaseUnits = some target)
    (nonzero : target ≠ 0) (mode : op.intent.mode = .dexFirst)
    (flipped : dexFirstRecoveryDirectionIsValid op.intent.direction target = false)
    (reason : Option String) :
    Shape { op with stage := .halted, blockingReason := reason } := by
  have stuck : Stuck { op with stage := .halted, blockingReason := reason } :=
    ⟨recoverable.known, recoverable.dispatched, recoverable.idle, unrecovered, mode, target, isTarget,
      nonzero, flipped⟩
  have unattempted : op.attempts = 0 := by
    simp [attempts, unrecovered, recoverable.idle]
  exact { shape with
    recovered := fun attempted => absurd unattempted attempted
    halted := fun _ => stuck }

theorem Shape.beginRecovery (unrecovered : op.recoveryResults = [])
    (isTarget : op.primaryRecoveryTargetTokenBDeltaBaseUnits = some target) :
    Shape { op with
      stage := .recovering
      recoveryInflight := true
      recoveryTargetTokenBDeltaBaseUnits := some target
      recoveryRetryNotBeforeUnixMs := none } := by
  obtain ⟨dex, cex⟩ := results_of_target isTarget
  refine { shape with
    recovered := fun _ => ⟨dex, rfl, Or.inl cex⟩
    inflight := fun _ => ?_
    bounded := ?_
    halted := nofun }
  · change ∀ result ∈ op.recoveryResults, _
    rw [unrecovered]
    exact List.forall_mem_nil _
  · simp [attempts, unrecovered, maxRecoveryAttempts]

theorem Shape.retryRecovery (retryable : op.lastRecoveryIsRetryable = true)
    (left : op.recoveryResults.length < maxRecoveryAttempts) :
    Shape { op with recoveryInflight := true, recoveryRetryNotBeforeUnixMs := none } := by
  obtain ⟨last, isLast, lastRetryable⟩ := lastRecoveryIsRetryable_iff.mp retryable
  have nonempty : op.recoveryResults ≠ [] := by
    intro isEmpty
    rw [isEmpty] at isLast
    cases isLast
  have attempted : op.attempts ≠ 0 := by
    have := List.length_pos_iff.mpr nonempty
    unfold attempts
    omega
  refine { shape with
    recovered := fun _ => shape.recovered attempted
    inflight := fun _ result mem => ?_
    bounded := ?_
    halted := fun halted => absurd (shape.halted halted).unrecovered nonempty }
  · rcases mem_dropLast_or_eq isLast mem with earlier | rfl
    · exact shape.retried result earlier
    · exact lastRetryable
  · exact left

theorem Shape.recordDex (dispatched : op.dexDispatched = true)
    (missing : op.dexResult = none)
    (failed : FailedLegsMoveNothing { op with dexResult := some result }) :
    Shape { op with dexResult := some result } := by
  have noResult : ¬op.dexResult.isSome = true := by simp [missing]
  refine { shape with
    failed := failed
    dexResult := fun _ => dispatched
    hedged := fun mode hedged => ?_
    recovered := fun attempted => absurd (shape.recovered attempted).1 noResult
    halted := fun halted => absurd (shape.halted halted).results.1 noResult }
  obtain ⟨dex, isDex, _⟩ := shape.hedged mode hedged
  rw [missing] at isDex
  cases isDex

theorem Shape.recordCex (dispatched : op.cexDispatched = true)
    (missing : op.cexResult = none)
    (failed : FailedLegsMoveNothing { op with cexResult := some result }) :
    Shape { op with cexResult := some result } := by
  have noResult : ¬op.cexResult.isSome = true := by simp [missing]
  refine { shape with
    failed := failed
    cexResult := fun _ => dispatched
    recovered := fun attempted => ?_
    halted := fun halted => absurd (shape.halted halted).results.2 noResult }
  obtain ⟨dex, target, _⟩ := shape.recovered attempted
  exact ⟨dex, target, Or.inl rfl⟩

variable {deadline : Option Nat}

theorem Shape.recordRecovery (inflight : op.recoveryInflight = true)
    (failed : FailedLegsMoveNothing { op with
      recoveryInflight := false
      recoveryResults := op.recoveryResults ++ [result]
      recoveryRetryNotBeforeUnixMs := deadline }) :
    Shape { op with
      recoveryInflight := false
      recoveryResults := op.recoveryResults ++ [result]
      recoveryRetryNotBeforeUnixMs := deadline } := by
  have attempts : op.attempts = op.recoveryResults.length + 1 := by
    simp [attempts, inflight]
  have bounded := shape.bounded
  have attempted : op.attempts ≠ 0 := by omega
  refine { shape with
    failed := failed
    recovered := fun _ => shape.recovered attempted
    inflight := nofun
    retried := fun earlier mem => ?_
    bounded := ?_
    halted := fun halted => ?_ }
  · rw [show (op.recoveryResults ++ [result]).dropLast = op.recoveryResults by simp] at mem
    exact shape.inflight inflight earlier mem
  · simp only [TradeOperation.attempts, List.length_append, List.length_singleton, Bool.toNat_false]
    omega
  · have idle := (shape.halted halted).idle
    rw [inflight] at idle
    cases idle

theorem Shape.reconcileDex (waiting : op.stage = .unknownExposure)
    (isUnknown : op.dexResult = some unknown) (status : unknown.status = .unknown)
    (notHalted : stage ≠ .halted)
    (failed : FailedLegsMoveNothing { op with dexResult := some result }) :
    Shape { op with dexResult := some result, stage := stage, blockingReason := none } := by
  have isSome : op.dexResult.isSome = true := by simp [isUnknown]
  refine { shape with
    failed := failed
    dexResult := fun _ => shape.dexResult isSome
    hedged := fun mode hedged => ?_
    recovered := fun attempted => ?_
    halted := fun halted => absurd halted notHalted }
  · obtain ⟨dex, isDex, filled, _⟩ := shape.hedged mode hedged
    rw [isUnknown] at isDex
    cases isDex
    rw [status] at filled
    cases filled
  · obtain ⟨_, target, cex | ⟨_, terminal⟩⟩ := shape.recovered attempted
    · exact ⟨rfl, target, Or.inl cex⟩
    · rw [waiting] at terminal
      cases terminal

theorem Shape.reconcileCex (isUnknown : op.cexResult = some unknown)
    (notHalted : stage ≠ .halted)
    (failed : FailedLegsMoveNothing { op with cexResult := some result }) :
    Shape { op with cexResult := some result, stage := stage, blockingReason := none } := by
  have isSome : op.cexResult.isSome = true := by simp [isUnknown]
  refine { shape with
    failed := failed
    cexResult := fun _ => shape.cexResult isSome
    recovered := fun attempted => ?_
    halted := fun halted => absurd halted notHalted }
  obtain ⟨dex, target, _⟩ := shape.recovered attempted
  exact ⟨dex, target, Or.inl rfl⟩

theorem Shape.reconcileRecovery (waiting : op.stage = .unknownExposure)
    (isUnknown : op.recoveryResults.getLast? = some unknown) (status : unknown.status = .unknown)
    (failed : FailedLegsMoveNothing { op with
      recoveryResults := op.recoveryResults.dropLast ++ [result] }) :
    Shape { op with
      recoveryResults := op.recoveryResults.dropLast ++ [result]
      recoveryRetryNotBeforeUnixMs := deadline
      stage := .recovering
      blockingReason := none } := by
  obtain ⟨front, isFront⟩ := List.getLast?_eq_some_iff.mp isUnknown
  have idle : ¬op.recoveryInflight = true := by
    intro inflight
    have retryable := shape.inflight inflight unknown (by simp [isFront])
    exact retryable_ne_unknown retryable status
  have length : (op.recoveryResults.dropLast ++ [result]).length =
      op.recoveryResults.length := by simp [isFront]
  have attempted : op.attempts ≠ 0 := by
    simp [attempts, isFront]
  refine { shape with
    failed := failed
    recovered := fun _ => ?_
    inflight := fun inflight => absurd inflight idle
    retried := fun earlier mem => ?_
    bounded := ?_
    halted := nofun }
  · obtain ⟨dex, target, cex | ⟨_, terminal⟩⟩ := shape.recovered attempted
    · exact ⟨dex, target, Or.inl cex⟩
    · rw [waiting] at terminal
      cases terminal
  · rw [show (op.recoveryResults.dropLast ++ [result]).dropLast =
      op.recoveryResults.dropLast by simp] at mem
    exact shape.retried earlier mem
  · have bounded := shape.bounded
    simp only [attempts, length] at bounded ⊢
    exact bounded

theorem Shape.select (mode : op.intent.mode = .dexFirst)
    (unhedged : op.cexDispatched = false) (limitPrice : Decimal) :
    Shape { op with cexExecutionLimitPrice := some limitPrice } := by
  refine { shape with unpriced := fun both => ?_, halted := fun halted => ?_ }
  · rw [show op.intent.mode = .concurrentHedged from both] at mode
    cases mode
  · have cexSome := (shape.halted halted).results.2
    rw [shape.cexResult cexSome] at unhedged
    cases unhedged

theorem Shape.correct (falsely : FalselyClosed op) {dexResult recoveryResult : LegResult}
    {evidence : OperatorRecoveryEvidence} (failed : FailedLegsMoveNothing next)
    (finalized : finalizeBalanced { op with
      dexResult := some dexResult
      recoveryTargetTokenBDeltaBaseUnits := some recoveryResult.tokenBDeltaBaseUnits
      recoveryResults := [recoveryResult]
      result := none
      stage := .recovering
      blockingReason := none
      operatorRecovery := some evidence } = .ok next) : Shape next := by
  obtain ⟨_, stage, result, terminal, rfl⟩ := finalizeBalanced_eq_ok finalized
  have notBoth : ¬op.intent.mode = .concurrentHedged := by simp [falsely.mode]
  have unhedged : ¬op.cexDispatched = true := by simp [falsely.cexDispatched]
  have idle : ¬op.recoveryInflight = true := by simp [falsely.idle]
  refine { shape with
    failed := failed
    dexResult := fun _ => falsely.dexDispatched
    hedged := fun _ hedged => absurd hedged unhedged
    recovered := fun _ => ⟨rfl, rfl, Or.inr ⟨falsely.cexDispatched, terminal⟩⟩
    inflight := fun inflight => absurd inflight idle
    retried := List.forall_mem_nil _
    bounded := ?_
    halted := ?_ }
  · simp [attempts, falsely.idle, maxRecoveryAttempts]
  · rintro halted
    rw [show stage = .halted from halted] at terminal
    cases terminal

end

/-- The stage after a reconciliation. -/
theorem reconciledStage_ne_halted (results : List LegResult) :
    (if results = [] then TradeStage.executing else .recovering) ≠ .halted := by
  split <;> decide

theorem Shape.move (shape : Shape op) (move : Move op commands next)
    (failed : FailedLegsMoveNothing next) : Shape next := by
  cases move with
  | block notTerminal _ => exact shape.restage (by decide) (Or.inl notTerminal) _ _ _
  | dispatchBoth _ _ fresh mode => exact shape.dispatchBoth fresh mode
  | dispatchDex _ _ fresh mode => exact shape.dispatchDex fresh mode
  | hedge underway _ unhedged result filled nonzero =>
    exact shape.hedge underway unhedged result filled nonzero
  | closeUnhedged _ _ _ _ _ closed | closeMatched _ _ _ _ closed | closeRecovered _ _ closed =>
    exact shape.closed _ closed
  | halt recoverable unrecovered isTarget nonzero mode flipped =>
    exact shape.halt recoverable unrecovered isTarget nonzero mode flipped _
  | beginRecovery _ unrecovered isTarget _ _ => exact shape.beginRecovery unrecovered isTarget
  | retryRecovery _ retryable left _ => exact shape.retryRecovery retryable left
  | recordDex _ dispatched missing _ => exact shape.recordDex dispatched missing failed
  | recordCex _ dispatched missing _ => exact shape.recordCex dispatched missing failed
  | recordRecovery _ inflight _ _ => exact shape.recordRecovery inflight failed
  | reconcileDex waiting isUnknown status _ _ =>
    exact shape.reconcileDex waiting isUnknown status (reconciledStage_ne_halted _) failed
  | reconcileCex _ isUnknown _ _ =>
    exact shape.reconcileCex isUnknown (reconciledStage_ne_halted _) failed
  | reconcileRecovery waiting isUnknown status _ _ =>
    exact shape.reconcileRecovery waiting isUnknown status failed
  | select mode unhedged _ limitPrice => exact shape.select mode unhedged limitPrice
  | correct falsely _ closed => exact shape.correct falsely failed closed

end Moves

/-! ## The trade as it is read back -/

section Stored

variable {op : TradeOperation}

theorem legResults_stored : op.stored.legResults = op.legResults.map LegResult.stored := by
  unfold legResults stored
  cases op.dexResult <;> cases op.cexResult <;> simp

@[simp]
theorem hasUnknownLeg_stored : op.stored.hasUnknownLeg = op.hasUnknownLeg := by
  unfold hasUnknownLeg
  rw [legResults_stored, List.any_map]
  rfl

@[simp]
theorem primaryRecoveryTarget_stored : op.stored.primaryRecoveryTargetTokenBDeltaBaseUnits =
    op.primaryRecoveryTargetTokenBDeltaBaseUnits := by
  unfold primaryRecoveryTargetTokenBDeltaBaseUnits stored
  cases op.dexResult <;> cases op.cexResult <;> rfl

@[simp]
theorem attempts_stored : op.stored.attempts = op.attempts := by
  simp [attempts, stored]

theorem Stuck.stored (stuck : Stuck op) : Stuck op.stored := by
  refine ⟨?_, stuck.dispatched, stuck.idle, ?_, stuck.mode, ?_⟩
  · rw [hasUnknownLeg_stored]
    exact stuck.known
  · simp [TradeOperation.stored, stuck.unrecovered]
  · rw [primaryRecoveryTarget_stored]
    exact stuck.flipped

theorem Shape.stored (shape : Shape op) : Shape op.stored := by
  have retryable : ∀ {results : List LegResult},
      (∀ result ∈ results, result.recoveryFailureIsRetryable = true) →
      ∀ result ∈ results.map LegResult.stored, result.recoveryFailureIsRetryable = true := by
    intro results all result mem
    obtain ⟨original, isMem, rfl⟩ := List.mem_map.mp mem
    exact all original isMem
  refine { shape with
    failed := fun result mem => ?_
    dexResult := fun isSome => ?_
    cexResult := fun isSome => ?_
    hedged := fun mode hedged => ?_
    recovered := fun attempted => ?_
    inflight := fun inflight => retryable (shape.inflight inflight)
    retried := ?_
    bounded := ?_
    halted := fun halted => (shape.halted halted).stored }
  · rw [legResults_stored] at mem
    obtain ⟨original, isMem, rfl⟩ := List.mem_map.mp mem
    exact shape.failed original isMem
  · exact shape.dexResult (by simpa [TradeOperation.stored] using isSome)
  · exact shape.cexResult (by simpa [TradeOperation.stored] using isSome)
  · obtain ⟨dex, isDex, filled, nonzero⟩ := shape.hedged mode hedged
    exact ⟨dex.stored, by simp [TradeOperation.stored, isDex], filled, nonzero⟩
  · rw [attempts_stored] at attempted
    simpa [TradeOperation.stored] using shape.recovered attempted
  · change ∀ result ∈ (op.recoveryResults.map LegResult.stored).dropLast, _
    rw [← List.map_dropLast]
    exact retryable shape.retried
  · rw [attempts_stored]
    exact shape.bounded

end Stored

end PolyBot.Trade
