import PolyBot.Trade.Shape
import Mathlib.Data.List.Sort

/-!
# Each leg is sent once

The commands that a session has emitted for a trade are read against the trade's journaled flags:
the flags bound how often each leg was sent, and the trade still determines every command that was
sent for it.

* `Ledger.move`: a move keeps the account of the emitted commands.
* `emitted_filter_eq`: a condition under which no more commands of a kind follow.
* `commands_emitted_at_most_once`: the discipline of the commands over every run.
* `reconciliation_repeats_what_was_sent`: what is asked for an unknown result.
-/

namespace PolyBot.Trade

open TradeOperation List

namespace CoordinatorCommand

def isDex : CoordinatorCommand → Bool
  | dispatchDex .. => true
  | _ => false

def isCex : CoordinatorCommand → Bool
  | dispatchCex .. => true
  | _ => false

def isRecovery : CoordinatorCommand → Bool
  | recoverCex .. => true
  | _ => false

/-- The number of the attempt of a recovery. -/
def attempt? : CoordinatorCommand → Option Nat
  | recoverCex attempt _ => some attempt
  | _ => none

end CoordinatorCommand

open CoordinatorCommand

def dexCount (emitted : List Emission) : Nat :=
  emitted.countP (·.command.isDex)

def cexCount (emitted : List Emission) : Nat :=
  emitted.countP (·.command.isCex)

def attemptsOf (emitted : List Emission) : List Nat :=
  emitted.filterMap (·.command.attempt?)

/-- The command of the CEX leg as the trade determines it. -/
def TradeOperation.cexCommand? (operation : TradeOperation) : Option CoordinatorCommand :=
  (operation.cexTarget "").toOption.map fun target =>
    .dispatchCex operation.intent.cexClientOrderId target operation.cexLimitPrice

/-- The trade was in a state that allows the command. -/
structure Allowed (emission : Emission) : Prop where
  known : emission.before.hasUnknownLeg = false
  notTerminal : emission.before.stage.terminal = false
  notHalted : emission.before.stage ≠ .halted
  hedge : emission.command.isCex = true → emission.before.intent.mode = .dexFirst →
    ∃ dex, emission.before.dexResult = some dex ∧ dex.status = .filled
  recovery : ∀ attempt target, emission.command = .recoverCex attempt target →
    (emission.before.dexDispatched = true → emission.before.dexResult.isSome = true) ∧
    (emission.before.cexDispatched = true → emission.before.cexResult.isSome = true) ∧
    emission.before.recoveryInflight = false ∧
    (∀ result ∈ emission.before.recoveryResults, result.recoveryFailureIsRetryable = true) ∧
    attempt = emission.before.recoveryResults.length + 1 ∧ attempt ≤ maxRecoveryAttempts

/-- The emitted commands against the trade. -/
structure Ledger (intact : Bool) (emitted : List Emission) (operation : TradeOperation) : Prop where
  dexOnce : dexCount emitted ≤ operation.dexDispatched.toNat
  cexOnce : cexCount emitted ≤ operation.cexDispatched.toNat
  dexSame : ∀ emission ∈ emitted, emission.command.isDex = true →
    emission.command = operation.dexCommand false
  cexSame : ∀ emission ∈ emitted, emission.command.isCex = true →
    operation.cexCommand? = some emission.command
  recovery : ∀ emission ∈ emitted, ∀ attempt target, emission.command = .recoverCex attempt target →
    operation.recoveryTargetTokenBDeltaBaseUnits = some target ∧ attempt ≤ operation.attempts
  increasing : (attemptsOf emitted).Pairwise (· < ·)
  complete : intact = true → dexCount emitted = operation.dexDispatched.toNat ∧
    cexCount emitted = operation.cexDispatched.toNat ∧
    attemptsOf emitted = range' 1 operation.attempts
  allowed : ∀ emission ∈ emitted, Allowed emission

/-- What a change of the trade adds to its commands. -/
structure Extends (operation : TradeOperation) (more : List Emission) (next : TradeOperation) :
    Prop where
  intent : next.intent = operation.intent
  dex : next.dexDispatched.toNat = operation.dexDispatched.toNat + dexCount more
  cex : next.cexDispatched.toNat = operation.cexDispatched.toNat + cexCount more
  dexNew : ∀ emission ∈ more, emission.command.isDex = true →
    emission.command = operation.dexCommand false
  cexKept : operation.cexDispatched = true → next.cexCommand? = operation.cexCommand?
  cexNew : ∀ emission ∈ more, emission.command.isCex = true →
    next.cexCommand? = some emission.command
  targetKept : operation.attempts ≠ 0 → next.recoveryTargetTokenBDeltaBaseUnits =
    operation.recoveryTargetTokenBDeltaBaseUnits
  targetNew : ∀ emission ∈ more, ∀ attempt target, emission.command = .recoverCex attempt target →
    next.recoveryTargetTokenBDeltaBaseUnits = some target
  attempts : ∃ count, next.attempts = operation.attempts + count ∧
    attemptsOf more = range' (operation.attempts + 1) count
  allowed : ∀ emission ∈ more, Allowed emission

/-! ## The account of the commands -/

variable {intact : Bool} {emitted : List Emission} {op next : TradeOperation}
  {commands : List CoordinatorCommand} {attempt : Nat} {target : Int}

section Ledger

variable {more : List Emission}

theorem attempt?_eq_some {command : CoordinatorCommand} :
    command.attempt? = some attempt ↔ ∃ target, command = .recoverCex attempt target := by
  cases command <;> simp [attempt?]

theorem mem_attemptsOf : attempt ∈ attemptsOf emitted ↔
    ∃ emission ∈ emitted, ∃ target, emission.command = .recoverCex attempt target := by
  simp only [attemptsOf, mem_filterMap, attempt?_eq_some]

theorem dexCount_append : dexCount (emitted ++ more) = dexCount emitted + dexCount more :=
  countP_append

theorem cexCount_append : cexCount (emitted ++ more) = cexCount emitted + cexCount more :=
  countP_append

section

variable (ledger : Ledger intact emitted op)
include ledger

variable {emission : Emission}

theorem Ledger.dispatched (mem : emission ∈ emitted) (isCex : emission.command.isCex = true) :
    op.cexDispatched = true := by
  have positive : 0 < cexCount emitted := countP_pos_iff.mpr ⟨emission, mem, isCex⟩
  have once := ledger.cexOnce
  cases isDispatched : op.cexDispatched with
  | true => rfl
  | false =>
    rw [isDispatched, Bool.toNat_false] at once
    omega

/-- The attempts of the emitted recoveries are positive. -/
theorem Ledger.attempted (mem : emission ∈ emitted) {target : Int}
    (isRecovery : emission.command = .recoverCex attempt target) : op.attempts ≠ 0 := by
  obtain ⟨_, _, _, _, isNext, _⟩ := (ledger.allowed emission mem).recovery attempt target isRecovery
  have bound := (ledger.recovery emission mem attempt target isRecovery).2
  omega

theorem Ledger.extend (adds : Extends op more next) :
    Ledger intact (emitted ++ more) next := by
  obtain ⟨count, nextAttempts, newAttempts⟩ := adds.attempts
  have attempts : attemptsOf (emitted ++ more) =
      attemptsOf emitted ++ range' (op.attempts + 1) count := by
    rw [← newAttempts]
    exact filterMap_append
  have sameCommand : next.dexCommand false = op.dexCommand false := by
    simp only [dexCommand, adds.intent]
  refine ⟨?_, ?_, ?_, ?_, ?_, ?_, ?_, ?_⟩
  · have once := ledger.dexOnce
    rw [dexCount_append, adds.dex]
    omega
  · have once := ledger.cexOnce
    rw [cexCount_append, adds.cex]
    omega
  · rw [sameCommand]
    exact forall_mem_append.mpr ⟨ledger.dexSame, adds.dexNew⟩
  · intro emission mem isCex
    rcases mem_append.mp mem with old | new
    · rw [adds.cexKept (ledger.dispatched old isCex)]
      exact ledger.cexSame emission old isCex
    · exact adds.cexNew emission new isCex
  · intro emission mem attempt target isRecovery
    rcases mem_append.mp mem with old | new
    · obtain ⟨isTarget, bound⟩ := ledger.recovery emission old attempt target isRecovery
      rw [adds.targetKept (ledger.attempted old isRecovery)]
      exact ⟨isTarget, by omega⟩
    · have listed : attempt ∈ attemptsOf more := mem_attemptsOf.mpr ⟨emission, new, target, isRecovery⟩
      rw [newAttempts, mem_range'_1] at listed
      exact ⟨adds.targetNew emission new attempt target isRecovery, by omega⟩
  · rw [attempts, pairwise_append]
    refine ⟨ledger.increasing, pairwise_lt_range', fun old oldMem new newMem => ?_⟩
    obtain ⟨emission, mem, target, isRecovery⟩ := mem_attemptsOf.mp oldMem
    have oldBound := (ledger.recovery emission mem old target isRecovery).2
    have newBound := (mem_range'_1.mp newMem).1
    omega
  · intro isIntact
    obtain ⟨dex, cex, all⟩ := ledger.complete isIntact
    refine ⟨?_, ?_, ?_⟩
    · rw [dexCount_append, adds.dex, dex]
    · rw [cexCount_append, adds.cex, cex]
    · rw [attempts, all, nextAttempts, Nat.add_comm op.attempts 1]
      exact range'_append_1
  · exact forall_mem_append.mpr ⟨ledger.allowed, adds.allowed⟩

end

/-- The account without its latest commands. -/
theorem Ledger.forget (ledger : Ledger intact (emitted ++ more) op) :
    Ledger false emitted op := by
  have dexOnce := ledger.dexOnce
  have cexOnce := ledger.cexOnce
  rw [dexCount_append] at dexOnce
  rw [cexCount_append] at cexOnce
  have increasing := ledger.increasing
  rw [show attemptsOf (emitted ++ more) = attemptsOf emitted ++ attemptsOf more from
    filterMap_append] at increasing
  exact ⟨by omega, by omega, (forall_mem_append.mp ledger.dexSame).1,
    (forall_mem_append.mp ledger.cexSame).1, (forall_mem_append.mp ledger.recovery).1,
    (pairwise_append.mp increasing).1, nofun, (forall_mem_append.mp ledger.allowed).1⟩

end Ledger

/-! ## Closed trades -/

/-- A closed trade has passed the checks before its closing. -/
def Closed (operation : TradeOperation) : Prop :=
  operation.stage.terminal = true → checkFinalizable operation = .ok ()

theorem checkFinalizable_eq_ok : checkFinalizable op = .ok () ↔
    op.hasUnknownLeg = false ∧
    (op.dexDispatched = false ∨ op.dexResult.isSome = true) ∧
    (op.cexDispatched = false ∨ op.cexResult.isSome = true) ∧
    op.recoveryInflight = false ∧
    op.dexResult.all (fun dex => dex.status ≠ .failed || dex.dexFailureProvesZeroExposure) =
      true := by
  simp only [checkFinalizable, bind_eq_ok, require_eq_ok]
  constructor
  · rintro ⟨_, known, _, dex, _, cex, _, idle, proven⟩
    exact ⟨known, dex, cex, idle, proven⟩
  · rintro ⟨known, dex, cex, idle, proven⟩
    exact ⟨(), known, (), dex, (), cex, (), idle, proven⟩

/-- An expired plan proves nothing about the DEX, so the trade cannot have been closed. -/
theorem Closed.not_falselyClosed (closed : Closed op) : ¬FalselyClosed op := by
  intro falsely
  obtain ⟨_, _, _, _, proven⟩ := checkFinalizable_eq_ok.mp (closed falsely.terminal)
  have expired := falsely.expired
  cases isDex : op.dexResult with
  | none => simp [isDex] at expired
  | some dex =>
    simp only [isDex, Option.any_some, Bool.and_eq_true, decide_eq_true_eq] at expired
    obtain ⟨failed, reference⟩ := expired
    have unproven : dex.dexFailureProvesZeroExposure = false := by
      rw [LegResult.dexFailureProvesZeroExposure, reference, failed]
      decide
    simp [isDex, failed, unproven] at proven

theorem closed_of_finalizeBalanced (finalized : finalizeBalanced op = .ok next) :
    Closed next := by
  obtain ⟨finalizable, _, _, _, rfl⟩ := finalizeBalanced_eq_ok finalized
  exact fun _ => finalizable

theorem closed_of_open (open_ : op.stage.terminal = false) : Closed op := by
  intro terminal
  rw [open_] at terminal
  cases terminal

theorem Closed.move (closed : Closed op) (move : Move op commands next) :
    Closed next := by
  cases move with
  | closeUnhedged _ _ _ _ _ finalized | closeMatched _ _ _ _ finalized | closeRecovered _ _ finalized
  | correct _ _ finalized => exact closed_of_finalizeBalanced finalized
  | select => exact fun terminal => closed terminal
  | hedge underway => exact closed_of_open underway.notTerminal
  | retryRecovery recoverable => exact closed_of_open recoverable.notTerminal
  | recordDex notTerminal | recordCex notTerminal | recordRecovery notTerminal =>
    exact closed_of_open notTerminal
  | reconcileDex | reconcileCex =>
    refine closed_of_open ?_
    dsimp only
    split <;> rfl
  | _ => exact closed_of_open rfl

theorem Closed.stored (closed : Closed op) : Closed op.stored := by
  intro terminal
  obtain ⟨known, dex, cex, idle, proven⟩ := checkFinalizable_eq_ok.mp (closed terminal)
  refine checkFinalizable_eq_ok.mpr ⟨?_, ?_, ?_, idle, ?_⟩
  · rw [hasUnknownLeg_stored]
    exact known
  · simpa [TradeOperation.stored] using dex
  · simpa [TradeOperation.stored] using cex
  · rw [show op.stored.dexResult = op.dexResult.map LegResult.stored from rfl,
      Option.all_map]
    exact proven

/-! ## What a move adds -/

/-- The CEX command depends on the intent, on the selected price and, when the DEX leg goes first, on
its delta. -/
theorem cexCommand?_congr (intent : next.intent = op.intent)
    (price : next.cexExecutionLimitPrice = op.cexExecutionLimitPrice)
    (delta : op.intent.mode = .dexFirst → next.dexResult.map LegResult.tokenBDeltaBaseUnits =
      op.dexResult.map LegResult.tokenBDeltaBaseUnits) :
    next.cexCommand? = op.cexCommand? := by
  have target : next.cexTarget "" = op.cexTarget "" := by
    unfold cexTarget
    rw [intent]
    cases mode : op.intent.mode with
    | concurrentHedged => simp only [plannedCexTarget, intent]
    | dexFirst =>
      cases isNext : next.dexResult <;> cases isDex : op.dexResult <;>
        simp_all [orError]
  simp only [cexCommand?, target, intent, cexLimitPrice, price,
    admissionLimitPrice]

/-- A sent CEX leg of a DEX-first trade fixes the DEX result. -/
theorem Shape.cexCommand?_eq (shape : Shape op) (hedged : op.cexDispatched = true)
    (intent : next.intent = op.intent)
    (price : next.cexExecutionLimitPrice = op.cexExecutionLimitPrice)
    (unfilled : ∀ dex, op.dexResult = some dex → dex.status ≠ .filled) :
    next.cexCommand? = op.cexCommand? := by
  refine cexCommand?_congr intent price fun mode => ?_
  obtain ⟨dex, isDex, filled, _⟩ := shape.hedged mode hedged
  exact absurd filled (unfilled dex isDex)

/-- A change that sends nothing. -/
theorem Extends.quiet (intent : next.intent = op.intent)
    (dex : next.dexDispatched = op.dexDispatched)
    (cex : next.cexDispatched = op.cexDispatched)
    (cexKept : op.cexDispatched = true → next.cexCommand? = op.cexCommand?)
    (target : next.recoveryTargetTokenBDeltaBaseUnits =
      op.recoveryTargetTokenBDeltaBaseUnits)
    (attempts : next.attempts = op.attempts) : Extends op [] next where
  intent := intent
  dex := by simp [dex, dexCount]
  cex := by simp [cex, cexCount]
  dexNew := forall_mem_nil _
  cexKept := cexKept
  cexNew := forall_mem_nil _
  targetKept := fun _ => target
  targetNew := forall_mem_nil _
  attempts := ⟨0, attempts, rfl⟩
  allowed := forall_mem_nil _

theorem extends_of_finalizeBalanced (deadline : Option Nat)
    (finalized : finalizeBalanced { op with recoveryRetryNotBeforeUnixMs := deadline } =
      .ok next) : Extends op [] next := by
  obtain ⟨_, _, _, _, rfl⟩ := finalizeBalanced_eq_ok finalized
  exact .quiet rfl rfl rfl (fun _ => rfl) rfl rfl

/-- A trade that sends a leg is not halted. -/
theorem Shape.notHalted (shape : Shape op) (move : Move op commands next)
    (sends : commands ≠ []) : op.stage ≠ .halted :=
  fun halted => sends (shape.halted_move halted move).1

theorem dispatchDex_extends (notTerminal : op.stage.terminal = false) (known : op.hasUnknownLeg = false)
    (notHalted : op.stage ≠ .halted) (fresh : op.dexDispatched = false) :
    Extends op [⟨op, op.dexCommand false⟩]
      { op with dexDispatched := true, stage := .executing } := by
  refine ⟨rfl, ?_, ?_, ?_, fun _ => rfl, ?_, fun _ => rfl, ?_, ⟨0, rfl, rfl⟩, ?_⟩
  · simp [dexCount, fresh, dexCommand, isDex]
  · simp [cexCount, dexCommand, isCex]
  · exact forall_mem_singleton.mpr fun _ => rfl
  · exact forall_mem_singleton.mpr nofun
  · exact forall_mem_singleton.mpr fun _ _ => nofun
  · exact forall_mem_singleton.mpr
      ⟨known, notTerminal, notHalted, nofun, fun _ _ => nofun⟩

theorem dispatchCex_extends {emission : Emission} (unhedged : op.cexDispatched = false)
    (isCex : emission.command.isCex = true)
    (determined : op.cexCommand? = some emission.command) (allowed : Allowed emission) :
    Extends op [emission] { op with cexDispatched := true } := by
  obtain ⟨before, command⟩ := emission
  cases command with
  | dispatchDex | recoverCex => cases isCex
  | dispatchCex clientOrderId target limitPrice =>
    refine ⟨rfl, rfl, ?_, ?_, fun _ => rfl, ?_, fun _ => rfl, ?_, ⟨0, rfl, rfl⟩, ?_⟩
    · simp [cexCount, unhedged, isCex]
    · exact forall_mem_singleton.mpr nofun
    · exact forall_mem_singleton.mpr fun _ => determined
    · exact forall_mem_singleton.mpr fun _ _ => nofun
    · exact forall_mem_singleton.mpr allowed

theorem primaryFinished_iff : op.primaryFinished = true ↔ op.dexResult.isSome = true ∧
    (op.cexDispatched = true → op.cexResult.isSome = true) := by
  unfold primaryFinished
  cases op.cexDispatched <;> simp

/-- The next attempt at the target. -/
theorem recover_extends (recoverable : Recoverable op) (notHalted : op.stage ≠ .halted)
    (retryable : ∀ result ∈ op.recoveryResults, result.recoveryFailureIsRetryable = true)
    {attempt : Nat} (isNext : attempt = op.recoveryResults.length + 1)
    (bound : attempt ≤ maxRecoveryAttempts) (kept : op.attempts ≠ 0 →
      op.recoveryTargetTokenBDeltaBaseUnits = some target) (stage : TradeStage) :
    Extends op [⟨op, .recoverCex attempt target⟩] { op with
      stage := stage
      recoveryInflight := true
      recoveryTargetTokenBDeltaBaseUnits := some target
      recoveryRetryNotBeforeUnixMs := none } := by
  obtain ⟨dex, cex⟩ := primaryFinished_iff.mp recoverable.finished
  have attempts : op.attempts = op.recoveryResults.length := by
    simp [attempts, recoverable.idle]
  refine ⟨rfl, rfl, rfl, ?_, fun _ => rfl, ?_, fun attempted => (kept attempted).symm, ?_,
    ⟨1, ?_, ?_⟩, ?_⟩
  · exact forall_mem_singleton.mpr (by rintro ⟨⟩)
  · exact forall_mem_singleton.mpr (by rintro ⟨⟩)
  · refine forall_mem_singleton.mpr fun other otherTarget isRecovery => ?_
    cases isRecovery
    rfl
  · rw [attempts]
    rfl
  · rw [attempts, ← isNext]
    rfl
  · refine forall_mem_singleton.mpr ⟨recoverable.known, recoverable.notTerminal, notHalted,
      by rintro ⟨⟩, fun other otherTarget isRecovery => ?_⟩
    cases isRecovery
    exact ⟨fun _ => dex, cex, recoverable.idle, retryable, isNext, bound⟩

/-- The attempts before the next one were all failures that may be repeated. -/
theorem Shape.all_retryable (shape : Shape op)
    (retryable : op.lastRecoveryIsRetryable = true) :
    ∀ result ∈ op.recoveryResults, result.recoveryFailureIsRetryable = true := by
  intro result mem
  obtain ⟨last, isLast, lastRetryable⟩ := lastRecoveryIsRetryable_iff.mp retryable
  rcases mem_dropLast_or_eq isLast mem with earlier | rfl
  · exact shape.retried result earlier
  · exact lastRetryable

theorem Ledger.dispatchBoth (ledger : Ledger intact emitted op) (shape : Shape op)
    (notTerminal : op.stage.terminal = false) (known : op.hasUnknownLeg = false)
    (notHalted : op.stage ≠ .halted) (fresh : op.dexDispatched = false)
    (mode : op.intent.mode = .concurrentHedged) :
    Ledger intact (emitted ++ [⟨op, op.dexCommand false⟩,
        ⟨op, .dispatchCex op.intent.cexClientOrderId op.plannedCexTarget
          op.admissionLimitPrice⟩])
      { op with dexDispatched := true, stage := .executing, cexDispatched := true } := by
  obtain ⟨unhedged, _⟩ := shape.unattempted fresh
  have sentDex := ledger.extend (dispatchDex_extends notTerminal known notHalted fresh)
  rw [append_cons]
  refine sentDex.extend (dispatchCex_extends unhedged rfl ?_ ?_)
  · simp [cexCommand?, cexTarget, cexLimitPrice, mode,
      shape.unpriced mode, Except.toOption, plannedCexTarget,
      admissionLimitPrice]
  · refine ⟨known, notTerminal, notHalted, fun _ first => ?_, fun _ _ => nofun⟩
    rw [show op.intent.mode = .dexFirst from first] at mode
    cases mode

theorem cexCommand?_of_target {missing : String} (isTarget : op.cexTarget missing = .ok target) :
    op.cexCommand? =
      some (.dispatchCex op.intent.cexClientOrderId target op.cexLimitPrice) := by
  have same : op.cexTarget "" = .ok target := by
    unfold cexTarget at isTarget ⊢
    cases mode : op.intent.mode with
    | concurrentHedged => simpa [mode] using isTarget
    | dexFirst =>
      simp only [mode, bind_eq_ok, orError_eq_ok] at isTarget ⊢
      exact isTarget
  rw [cexCommand?, same]
  rfl

/-- The CEX command of a DEX-first trade that is hedged now. -/
theorem hedge_determined (mode : op.intent.mode = .dexFirst) {dex : LegResult}
    (result : op.dexResult = some dex) : op.cexCommand? =
      some (.dispatchCex op.intent.cexClientOrderId (negI128 dex.tokenBDeltaBaseUnits)
        op.cexLimitPrice) := by
  have isTarget : op.cexTarget "" = .ok (negI128 dex.tokenBDeltaBaseUnits) := by
    simp only [cexTarget, mode, bind_eq_ok, orError_eq_ok, pure_eq_ok]
    exact ⟨dex, result, rfl⟩
  exact cexCommand?_of_target isTarget

theorem Ledger.move (ledger : Ledger intact emitted op) (shape : Shape op)
    (closed : Closed op) (move : Move op commands next) :
    Ledger intact (emitted ++ commands.map (Emission.mk op)) next := by
  have notHalted := shape.notHalted move
  cases move with
  | dispatchBoth notTerminal known fresh mode =>
    exact ledger.dispatchBoth shape notTerminal known (notHalted (by simp)) fresh mode
  | dispatchDex notTerminal known fresh mode =>
    exact ledger.extend (dispatchDex_extends notTerminal known (notHalted (by simp)) fresh)
  | hedge underway mode unhedged result filled nonzero =>
    exact ledger.extend (dispatchCex_extends unhedged rfl (hedge_determined mode result)
      ⟨underway.known, underway.notTerminal, notHalted (by simp), fun _ _ => ⟨_, result, filled⟩,
        fun _ _ => nofun⟩)
  | beginRecovery recoverable unrecovered isTarget nonzero straight =>
    have unattempted : op.attempts = 0 := by
      simp [attempts, unrecovered, recoverable.idle]
    refine ledger.extend (recover_extends recoverable (notHalted (by simp)) ?_ ?_ ?_
      (fun attempted => absurd unattempted attempted) _)
    · rw [unrecovered]
      exact forall_mem_nil _
    · rw [unrecovered]
      rfl
    · simp [maxRecoveryAttempts]
  | retryRecovery recoverable retryable left isTarget =>
    have adds := recover_extends recoverable (notHalted (by simp)) (shape.all_retryable retryable) rfl
      left (fun _ => isTarget) op.stage
    rw [← isTarget] at adds
    exact ledger.extend adds
  | closeUnhedged _ _ _ _ _ finalized | closeMatched _ _ _ _ finalized =>
    exact ledger.extend (extends_of_finalizeBalanced op.recoveryRetryNotBeforeUnixMs finalized)
  | closeRecovered _ _ finalized => exact ledger.extend (extends_of_finalizeBalanced none finalized)
  | block | halt | reconcileCex | recordCex =>
    exact ledger.extend (.quiet rfl rfl rfl (fun _ => rfl) rfl rfl)
  | recordDex _ _ missing result =>
    refine ledger.extend (.quiet rfl rfl rfl (fun hedged => ?_) rfl rfl)
    exact shape.cexCommand?_eq hedged rfl rfl (by simp [missing])
  | reconcileDex _ isUnknown status _ _ =>
    refine ledger.extend (.quiet rfl rfl rfl (fun hedged => ?_) rfl rfl)
    exact shape.cexCommand?_eq hedged rfl rfl (by simp [isUnknown, status])
  | recordRecovery _ inflight _ _ =>
    refine ledger.extend (.quiet rfl rfl rfl (fun _ => rfl) rfl ?_)
    simp [attempts, inflight]
  | reconcileRecovery _ isUnknown _ _ _ =>
    refine ledger.extend (.quiet rfl rfl rfl (fun _ => rfl) rfl ?_)
    obtain ⟨front, isFront⟩ := getLast?_eq_some_iff.mp isUnknown
    simp [attempts, isFront]
  | select _ unhedged _ _ =>
    refine ledger.extend (.quiet rfl rfl rfl (fun hedged => ?_) rfl rfl)
    rw [unhedged] at hedged
    cases hedged
  | correct falsely _ _ => exact absurd falsely closed.not_falselyClosed

theorem Ledger.stored (ledger : Ledger intact emitted op) :
    Ledger intact emitted op.stored := by
  have adds : Extends op [] op.stored := by
    refine .quiet rfl rfl rfl (fun _ => cexCommand?_congr rfl rfl fun _ => ?_) rfl attempts_stored
    rw [show op.stored.dexResult = op.dexResult.map LegResult.stored from rfl,
      Option.map_map]
    rfl
  simpa using ledger.extend adds

/-! ## Over runs -/

/-- A trade with the account of its commands. -/
structure Orderly (intact : Bool) (emitted : List Emission) (operation : TradeOperation) : Prop where
  shape : Shape operation
  closed : Closed operation
  ledger : Ledger intact emitted operation

/-- Before its admission a trade has no commands. -/
def OrderlyNow : TradeInvariant
  | _, emitted, none => emitted = []
  | intact, emitted, some operation => Orderly intact emitted operation

theorem Orderly.prepared {intent : TradeIntent} (valid : intent.validate = .ok ()) (intact : Bool) :
    Orderly intact [] (.prepared intent) := by
  refine ⟨.prepared valid, closed_of_open rfl, ?_⟩
  exact ⟨Nat.zero_le _, Nat.zero_le _, forall_mem_nil _, forall_mem_nil _,
    forall_mem_nil _, .nil, fun _ => ⟨rfl, rfl, rfl⟩, forall_mem_nil _⟩

theorem orderlyNow_inductive (planId : String) : Inductive planId anyChange OrderlyNow where
  progress := by
    intro intact emitted before commands next holds progress _ valid own
    cases progress with
    | admitted intent =>
      have isNil : emitted = [] := holds
      rw [isNil]
      exact .prepared (validateOperation_spec valid).1 intact
    | moved move =>
      obtain ⟨shape, closed, ledger⟩ := holds
      exact ⟨shape.move move (failed_of_validateOperation valid), closed.move move, ledger.move shape closed move⟩
  forget := by
    intro intact emitted more now holds
    cases now with
    | none => exact (append_eq_nil_iff.mp holds).1
    | some op =>
      obtain ⟨shape, closed, ledger⟩ := holds
      exact ⟨shape, closed, ledger.forget⟩
  stored := fun ⟨shape, closed, ledger⟩ => ⟨shape.stored, closed.stored, ledger.stored⟩

/-- A session over a journal that has just been opened. -/
def Session.start (journal : TradeJournal) : Session where
  journal := journal
  emitted := []
  intact := true

section Runs

variable {planId : String} {session mid last : Session} {file : AppendLog.File WirePayload}
  {journal : TradeJournal} {I : TradeInvariant}

/-- An opened journal has the trade as its file has it. -/
theorem keeps_opened (opened : TradeJournal.openFile file = .ok journal)
    (readBack : journal.operation? planId = (journal.operation? planId).map stored)
    (holds : I true [] (journal.operation? planId)) : Keeps planId I (.start journal) := by
  obtain ⟨replayed, _, sameFile⟩ := TradeJournal.openFile_eq_ok opened
  refine ⟨holds, fun acc again => Or.inl ?_⟩
  have same : AppendLog.replay openFormat file.records = .ok acc := by
    rw [← sameFile]
    exact again
  rw [replayed] at same
  cases same
  exact readBack

theorem keeps_start (opened : TradeJournal.openFile file = .ok journal)
    (absent : journal.operation? planId = none) : Keeps planId OrderlyNow (.start journal) := by
  refine keeps_opened opened (by rw [absent]; rfl) ?_
  rw [absent]
  rfl

theorem SessionRun.emitted_prefix (run : SessionRun planId session last) :
    session.emitted <+: last.emitted := by
  induction run with
  | refl => exact prefix_rfl
  | tail _ step ih =>
    cases step with
    | reopen => exact ih
    | call env call =>
      refine ih.trans ?_
      unfold Session.after
      split
      · exact prefix_append _ _
      · exact prefix_rfl

/-- The commands of one kind since a state with the property `K`. -/
def Settled (kind : CoordinatorCommand → Bool) (K : TradeOperation → Prop) (earlier : List Emission) :
    TradeInvariant :=
  fun _ emitted now => emitted.filter (kind ·.command) <+: earlier.filter (kind ·.command) ∧
    ∃ operation, now = some operation ∧ K operation

variable {command : CoordinatorCommand}

/-- A closed trade stays closed and emits nothing. -/
theorem terminal_move (terminal : op.stage.terminal = true) (move : Move op commands next) :
    next.stage.terminal = true ∧ commands = [] := by
  have notOpen : op.stage.terminal ≠ false := by simp [terminal]
  have notWaiting : op.stage ≠ .unknownExposure := by
    rintro waiting
    rw [waiting] at terminal
    cases terminal
  cases move with
  | select => exact ⟨terminal, rfl⟩
  | correct _ _ finalized =>
    obtain ⟨_, _, _, isTerminal, rfl⟩ := finalizeBalanced_eq_ok finalized
    exact ⟨isTerminal, rfl⟩
  | block open_ | dispatchBoth open_ | dispatchDex open_ | recordDex open_ | recordCex open_
  | recordRecovery open_ => exact absurd open_ notOpen
  | hedge underway | closeUnhedged underway => exact absurd underway.notTerminal notOpen
  | closeMatched recoverable | closeRecovered recoverable | halt recoverable
  | beginRecovery recoverable | retryRecovery recoverable =>
    exact absurd recoverable.notTerminal notOpen
  | reconcileDex waiting | reconcileCex waiting | reconcileRecovery waiting =>
    exact absurd waiting notWaiting

/-- A recovery has ended with a result that is known and does not allow another attempt. -/
def RecoveryEnded (operation : TradeOperation) : Prop :=
  ∃ result ∈ operation.recoveryResults, result.status ≠ .unknown ∧
    result.recoveryFailureIsRetryable = false

theorem RecoveryEnded.move (shape : Shape op) (ended : RecoveryEnded op)
    (move : Move op commands next) :
    RecoveryEnded next ∧ ∀ command ∈ commands, command.isRecovery = false := by
  obtain ⟨result, mem, known, final⟩ := ended
  have nonempty : op.recoveryResults ≠ [] := ne_nil_of_mem mem
  have kept : RecoveryEnded op := ⟨result, mem, known, final⟩
  have quiet : ∀ command ∈ ([] : List CoordinatorCommand), command.isRecovery = false :=
    forall_mem_nil _
  cases move with
  | closeUnhedged _ _ _ _ _ finalized | closeMatched _ _ _ _ finalized
  | closeRecovered _ _ finalized =>
    obtain ⟨_, _, _, _, rfl⟩ := finalizeBalanced_eq_ok finalized
    exact ⟨kept, quiet⟩
  | correct falsely _ _ => exact absurd falsely.recoveryResults nonempty
  | beginRecovery _ unrecovered _ _ _ => exact absurd unrecovered nonempty
  | retryRecovery _ retryable _ _ =>
    have isRetryable := shape.all_retryable retryable result mem
    rw [final] at isRetryable
    cases isRetryable
  | recordRecovery => exact ⟨⟨result, mem_append_left _ mem, known, final⟩, quiet⟩
  | reconcileRecovery _ isUnknown status _ _ =>
    rcases mem_dropLast_or_eq isUnknown mem with earlier | rfl
    · exact ⟨⟨result, mem_append_left _ earlier, known, final⟩, quiet⟩
    · exact absurd status known
  | dispatchBoth =>
    refine ⟨kept, fun command isMem => ?_⟩
    rcases mem_pair.mp isMem with rfl | rfl <;> rfl
  | dispatchDex | hedge =>
    exact ⟨kept, forall_mem_singleton.mpr rfl⟩
  | _ => exact ⟨kept, quiet⟩

section Later

variable (keeps : Keeps planId I mid) (found : mid.journal.operation? planId = some op)
  (later : SessionRun planId mid last)

include keeps found later

/-- A condition that the moves keep and that allows no command of a kind: none follows. -/
theorem emitted_filter_eq (kind : CoordinatorCommand → Bool) (K : TradeOperation → Prop)
    (kept : ∀ {op commands next}, K op → Move op commands next →
      validateOperation next = .ok () → K next ∧ ∀ command ∈ commands, kind command = false)
    (stored : ∀ {op}, K op → K op.stored) (holds : K op) :
    last.emitted.filter (kind ·.command) = mid.emitted.filter (kind ·.command) := by
  have invariant : Inductive planId anyChange (Settled kind K mid.emitted) := by
    constructor
    · rintro intact emitted before commands next ⟨settled, current, rfl, holdsNow⟩ progress - valid -
      cases progress with
      | moved move =>
        obtain ⟨holdsNext, none⟩ := kept holdsNow move valid
        refine ⟨?_, next, rfl, holdsNext⟩
        have nothing : (emissions (some current) commands).filter (kind ·.command) = [] := by
          refine filter_eq_nil_iff.mpr fun emission mem => ?_
          obtain ⟨command, isMem, rfl⟩ := mem_map.mp mem
          simp [none command isMem]
        rw [filter_append, nothing, append_nil]
        exact settled
    · rintro intact emitted more now ⟨settled, isNow⟩
      rw [filter_append] at settled
      exact ⟨(prefix_append _ _).trans settled, isNow⟩
    · rintro intact emitted _ ⟨settled, current, isCurrent, holdsNow⟩
      cases isCurrent
      exact ⟨settled, _, rfl, stored holdsNow⟩
  have start : Keeps planId (Settled kind K mid.emitted) mid :=
    ⟨⟨prefix_rfl, op, found, holds⟩, keeps.file⟩
  obtain ⟨back, _⟩ := (later.keeps invariant start).memory
  have forth := later.emitted_prefix.filter (kind ·.command)
  exact back.eq_of_length_le forth.length_le

theorem no_command_after_terminal (terminal : op.stage.terminal = true) :
    last.emitted = mid.emitted := by
  have same := emitted_filter_eq keeps found later (fun _ => true) (fun op => op.stage.terminal = true)
    (fun holds move _ => ⟨(terminal_move holds move).1, by simp [(terminal_move holds move).2]⟩)
    (fun holds => holds) terminal
  simpa using same

theorem no_command_after_halt (shape : Shape op) (halted : op.stage = .halted) :
    last.emitted = mid.emitted := by
  have same := emitted_filter_eq keeps found later (fun _ => true)
    (fun op => Shape op ∧ op.stage = .halted)
    (fun ⟨holdsShape, isHalted⟩ move valid =>
      ⟨⟨holdsShape.move move (failed_of_validateOperation valid), (holdsShape.halted_move isHalted move).2⟩,
        by simp [(holdsShape.halted_move isHalted move).1]⟩)
    (fun ⟨holdsShape, isHalted⟩ => ⟨holdsShape.stored, isHalted⟩) ⟨shape, halted⟩
  simpa using same

theorem no_recovery_after_end (shape : Shape op) (ended : RecoveryEnded op) :
    last.emitted.filter (·.command.isRecovery) = mid.emitted.filter (·.command.isRecovery) := by
  refine emitted_filter_eq keeps found later isRecovery
    (fun op => Shape op ∧ RecoveryEnded op) ?_ ?_ ⟨shape, ended⟩
  · rintro current commands next ⟨holdsShape, isEnded⟩ move valid
    obtain ⟨endedNext, quiet⟩ := isEnded.move holdsShape move
    exact ⟨⟨holdsShape.move move (failed_of_validateOperation valid), endedNext⟩, quiet⟩
  · rintro current ⟨holdsShape, result, mem, known, final⟩
    exact ⟨holdsShape.stored, result.stored, mem_map_of_mem mem, known, final⟩

end Later

/-- The rules for the commands that a session has emitted for one trade.  Its attempts are numbered
from 1 in the journal, and those emitted are among them; all of them are, unless a call has failed with
its record in the file. -/
structure Disciplined (planId : String) (session : Session) : Prop where
  dexOnce : dexCount session.emitted ≤ 1
  cexOnce : cexCount session.emitted ≤ 1
  attemptOnce : (attemptsOf session.emitted).Pairwise (· < ·)
  journaled : ∀ operation, session.journal.operation? planId = some operation →
    operation.attempts ≤ maxRecoveryAttempts ∧
      attemptsOf session.emitted <+ range' 1 operation.attempts
  consecutive : session.intact = true → ∃ count ≤ maxRecoveryAttempts,
    attemptsOf session.emitted = range' 1 count
  bounded : ∀ attempt ∈ attemptsOf session.emitted, 1 ≤ attempt ∧ attempt ≤ maxRecoveryAttempts
  oneTarget : ∃ target, ∀ emission ∈ session.emitted, emission.command.isRecovery = true →
    ∃ attempt, emission.command = .recoverCex attempt target
  allowed : ∀ emission ∈ session.emitted, Allowed emission

/-- The command belongs to a leg that is journaled as sent and has no result, and agrees with every
command that was emitted for that leg; one was, unless a call has failed with its record in the
file. -/
def Resumes (session : Session) (operation : TradeOperation) : CoordinatorCommand → Prop
  | .dispatchDex operationId expected plan _ =>
    operation.dexDispatched = true ∧ operation.dexResult = none ∧
    (∀ emission ∈ session.emitted, emission.command.isDex = true →
      emission.command = .dispatchDex operationId expected plan false) ∧
    (session.intact = true → ∃ emission ∈ session.emitted, emission.command.isDex = true)
  | .dispatchCex clientOrderId target limitPrice =>
    operation.cexDispatched = true ∧ operation.cexResult = none ∧
    (∀ emission ∈ session.emitted, emission.command.isCex = true →
      emission.command = .dispatchCex clientOrderId target limitPrice) ∧
    (session.intact = true → ∃ emission ∈ session.emitted, emission.command.isCex = true)
  | .recoverCex attempt target =>
    operation.recoveryInflight = true ∧ operation.recoveryResults.length + 1 = attempt ∧
    (∀ emission ∈ session.emitted, emission.command.isRecovery = true →
      ∃ earlier ≤ attempt, emission.command = .recoverCex earlier target) ∧
    (session.intact = true →
      ∃ emission ∈ session.emitted, emission.command = .recoverCex attempt target)

theorem isRecovery_iff : command.isRecovery = true ↔
    ∃ attempt target, command = .recoverCex attempt target := by
  cases command <;> simp [isRecovery]

/-- Every emitted attempt is one of those that the journal counts. -/
theorem Ledger.attempts_sublist {intact : Bool} {emitted : List Emission}
    (ledger : Ledger intact emitted op) : attemptsOf emitted <+ range' 1 op.attempts := by
  have counted : attemptsOf emitted ⊆ range' 1 op.attempts := by
    intro attempt mem
    obtain ⟨emission, isMem, target, isRecovery⟩ := mem_attemptsOf.mp mem
    obtain ⟨_, bound⟩ := ledger.recovery emission isMem attempt target isRecovery
    obtain ⟨_, _, _, _, isNext, _⟩ :=
      (ledger.allowed emission isMem).recovery attempt target isRecovery
    rw [mem_range'_1]
    omega
  exact sublist_of_subperm_of_pairwise (subperm_of_subset ledger.increasing.nodup counted)
    ledger.increasing (pairwise_lt_range' 1)

theorem Orderly.disciplined (orderly : Orderly session.intact session.emitted op)
    (found : session.journal.operation? planId = some op) : Disciplined planId session := by
  obtain ⟨shape, _, ledger⟩ := orderly
  refine ⟨?_, ?_, ledger.increasing, ?_, fun isIntact => ?_, fun attempt mem => ?_, ?_,
    ledger.allowed⟩
  · exact ledger.dexOnce.trans (Bool.toNat_le _)
  · exact ledger.cexOnce.trans (Bool.toNat_le _)
  · intro operation stored
    cases found.symm.trans stored
    exact ⟨shape.bounded, ledger.attempts_sublist⟩
  · exact ⟨op.attempts, shape.bounded, (ledger.complete isIntact).2.2⟩
  · have counted := ledger.attempts_sublist.subset mem
    have bounded := shape.bounded
    rw [mem_range'_1] at counted
    omega
  · refine ⟨op.recoveryTargetTokenBDeltaBaseUnits.getD 0, fun emission mem isRecovery => ?_⟩
    obtain ⟨attempt, target, isCommand⟩ := isRecovery_iff.mp isRecovery
    obtain ⟨isTarget, _⟩ := ledger.recovery emission mem attempt target isCommand
    exact ⟨attempt, by rw [isTarget, isCommand, Option.getD_some]⟩

/-- A command is emitted where its count is that of a flag that is set. -/
theorem exists_sent {kind : Emission → Bool} {flag : Bool}
    (once : emitted.countP kind = flag.toNat) (sent : flag = true) :
    ∃ emission ∈ emitted, kind emission = true := by
  rw [sent, Bool.toNat_true] at once
  exact countP_pos_iff.mp (by omega)

theorem Ledger.eq_cexCommand {missing : String} (ledger : Ledger intact emitted op)
    (isTarget : op.cexTarget missing = .ok target) : ∀ emission ∈ emitted,
      emission.command.isCex = true → emission.command =
        .dispatchCex op.intent.cexClientOrderId target op.cexLimitPrice := by
  intro emission mem isCex
  have determined := ledger.cexSame emission mem isCex
  rw [cexCommand?_of_target isTarget] at determined
  exact (Option.some.inj determined).symm

theorem Ledger.recovery_sent (ledger : Ledger intact emitted op)
    (isTarget : op.recoveryTargetTokenBDeltaBaseUnits = some target) (positive : 0 < attempt)
    (bound : attempt ≤ op.attempts) (isIntact : intact = true) :
    ∃ emission ∈ emitted, emission.command = .recoverCex attempt target := by
  have listed : attempt ∈ attemptsOf emitted := by
    rw [(ledger.complete isIntact).2.2, mem_range'_1]
    omega
  obtain ⟨emission, mem, other, isCommand⟩ := mem_attemptsOf.mp listed
  obtain ⟨sameTarget, _⟩ := ledger.recovery emission mem _ other isCommand
  rw [isTarget] at sameTarget
  cases sameTarget
  exact ⟨emission, mem, isCommand⟩

theorem Orderly.resumes (orderly : Orderly session.intact session.emitted op) {now : Option Nat}
    (resumed : op.resumeCommand now = .ok (some command)) : Resumes session op command := by
  obtain ⟨shape, _, ledger⟩ := orderly
  unfold resumeCommand at resumed
  split at resumed
  · rename_i waiting
    simp only [bind_eq_ok, pure_eq_ok, Option.some.injEq] at resumed
    obtain ⟨_, _, rfl⟩ := resumed
    exact ⟨waiting.1, waiting.2, ledger.dexSame,
      fun isIntact => exists_sent (ledger.complete isIntact).1 waiting.1⟩
  split at resumed
  · rename_i waiting
    simp only [bind_eq_ok, pure_eq_ok, Option.some.injEq] at resumed
    obtain ⟨target, isTarget, rfl⟩ := resumed
    exact ⟨waiting.1, waiting.2, ledger.eq_cexCommand isTarget,
      fun isIntact => exists_sent (ledger.complete isIntact).2.1 waiting.1⟩
  split at resumed
  · rename_i inflight
    cases resumed
    have attempts : op.attempts = op.recoveryResults.length + 1 := by
      simp [attempts, inflight]
    obtain ⟨_, hasTarget, _⟩ := shape.recovered (by omega)
    obtain ⟨target, isTarget⟩ := Option.isSome_iff_exists.mp hasTarget
    refine ⟨inflight, rfl, fun emission mem isRecovery => ?_, fun isIntact => ?_⟩
    · obtain ⟨attempt, other, isCommand⟩ := isRecovery_iff.mp isRecovery
      obtain ⟨sameTarget, bound⟩ := ledger.recovery emission mem attempt other isCommand
      exact ⟨attempt, by omega, by rw [sameTarget, isCommand, Option.getD_some]⟩
    · rw [isTarget]
      exact ledger.recovery_sent isTarget (by omega) (by omega) isIntact
  · cases resumed

/-- Over every run from the opening of a journal that does not have the plan, with a state on the
way: the emitted commands obey the rules, nothing follows a closed or halted trade and no recovery
an ended one, and what is resumed was journaled as sent. -/
theorem commands_emitted_at_most_once (opened : TradeJournal.openFile file = .ok journal)
    (absent : journal.operation? planId = none)
    (earlier : SessionRun planId (.start journal) mid) (later : SessionRun planId mid last) :
    Disciplined planId last ∧
    (∀ operation, mid.journal.operation? planId = some operation →
      (operation.stage.terminal = true ∨ operation.stage = .halted → last.emitted = mid.emitted) ∧
      (RecoveryEnded operation → last.emitted.filter (·.command.isRecovery) =
        mid.emitted.filter (·.command.isRecovery))) ∧
    (∀ now command, PaperTradeCoordinator.resumeCommand now last.journal planId =
      .ok (some command) → ∃ operation, last.journal.operation? planId = some operation ∧
        Resumes last operation command) := by
  have invariant := orderlyNow_inductive planId
  have keepsMid := earlier.keeps invariant (keeps_start opened absent)
  have keepsLast := later.keeps invariant keepsMid
  refine ⟨?_, fun operation found => ?_, fun now command resumed => ?_⟩
  · have memory := keepsLast.memory
    cases found : last.journal.operation? planId with
    | none =>
      -- the trade has not been admitted
      rw [found] at memory
      have isNil : last.emitted = [] := memory
      constructor <;> simp [isNil, found, dexCount, cexCount, attemptsOf]
    | some operation =>
      rw [found] at memory
      exact Orderly.disciplined memory found
  · have memory := keepsMid.memory
    rw [found] at memory
    have shape : Shape operation := memory.shape
    constructor
    · rintro (terminal | halted)
      · exact no_command_after_terminal keepsMid found later terminal
      · exact no_command_after_halt keepsMid found later shape halted
    · exact fun ended => no_recovery_after_end keepsMid found later shape ended
  · simp only [PaperTradeCoordinator.resumeCommand, TradeJournal.operation, bind_eq_ok,
      orError_eq_ok] at resumed
    obtain ⟨operation, found, isResumed⟩ := resumed
    have memory := keepsLast.memory
    rw [found] at memory
    exact ⟨operation, found, Orderly.resumes memory isResumed⟩

end Runs

/-! ## A run with two recoveries -/

/-- A session after a list of calls. -/
def Session.afterCalls (planId : String) (session : Session) (calls : List (Env × CoordinatorCall)) :
    Session :=
  calls.foldl (fun current call => current.after planId call.1 call.2) session

theorem sessionRun_afterCalls (planId : String) (session : Session)
    (calls : List (Env × CoordinatorCall)) :
    SessionRun planId session (session.afterCalls planId calls) := by
  induction calls generalizing session with
  | nil => exact .refl
  | cons call calls ih => exact .head (.call call.1 call.2) (ih _)

def emptyTradeJournal : TradeJournal :=
  ⟨.ofOperations KeyedMap.empty, 0, false, ⟨[], false⟩⟩

/-- A trade of 1000 units that sends both legs at once. -/
def hedgedIntent : TradeIntent where
  planId := "plan-1"
  sourceRevision := "rev-1"
  pairId := "pair-1"
  journalScope := none
  opportunityReceivedUnixUs := 1
  opportunityUpdateId := 1
  mode := .concurrentHedged
  direction := .buyTokenBOnDexSellOnCex
  plannedTokenBBaseUnits := 1000
  tokenBStepBaseUnits := 10
  expectedCostTokenABaseUnits := 100
  expectedProceedsTokenABaseUnits := 110
  dexOperationId := "plan-1-dex"
  cexClientOrderId := "rustarb1"
  admission := none
  dexPlan := none

/-- The result of a leg with its balance deltas. -/
def plainResult (status : LegStatus) (tokenB tokenA : Int) (reference : String) : LegResult where
  status := status
  executedTokenBDeltaBaseUnits := none
  tokenBDeltaBaseUnits := tokenB
  tokenADeltaBaseUnits := tokenA
  thirdAssetDeltas := []
  thirdAssetPricesTokenA := []
  gasCostTokenABaseUnits := 0
  venueReference := reference
  dexSettlementFee := none
  dexSettlementLog := none

/-- A disk that takes the record, at the time `now`. -/
def writesAt (now : Nat) : Env :=
  ⟨some now, ⟨some now, some 100, .synced⟩⟩

/-- The DEX leg fills, the CEX leg and the first recovery do not. -/
def twoAttempts : Session :=
  (Session.start emptyTradeJournal).afterCalls "plan-1" [
    (writesAt 0, .admitIntent hedgedIntent),
    (writesAt 0, .takeCommands "plan-1"),
    (writesAt 0, .recordResult "plan-1" .dex (plainResult .filled 1000 (-100) "dex:0x01")),
    (writesAt 0, .recordResult "plan-1" .cex (plainResult .failed 0 0 "cex:rejected")),
    (writesAt 0, .takeCommands "plan-1"),
    (writesAt 0, .recordResult "plan-1" .recoveryCex (plainResult .failed 0 0 "cex:market-rejected")),
    (writesAt 1000, .takeCommands "plan-1")]

theorem two_attempts_emitted :
    twoAttempts.emitted.map Emission.command =
      [.dispatchDex "plan-1-dex" 1000 none false, .dispatchCex "rustarb1" (-1000) none,
        .recoverCex 1 (-1000), .recoverCex 2 (-1000)] ∧
    twoAttempts.intact = true ∧ Disciplined "plan-1" twoAttempts := by
  refine ⟨by decide +kernel, by decide +kernel, ?_⟩
  have opened : TradeJournal.openFile ⟨[], false⟩ = .ok emptyTradeJournal := rfl
  exact (commands_emitted_at_most_once opened rfl (sessionRun_afterCalls "plan-1" _ _) .refl).1

end PolyBot.Trade
