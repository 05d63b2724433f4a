import PolyBot.Trade.Dispatch

/-!
# Closed trades are balanced

A trade is closed from four branches of `take_commands` and by an operator's correction.  Whatever
the branch, its legs are settled and its result is the account of them.

* `finalizeBalanced_accounts`: the result that closing records.
* `Move.balanced`: a move that closes a trade leaves it balanced.
* `closed_trades_are_balanced`: over every run.
-/

namespace PolyBot.Trade

namespace TradeOperation

variable (operation : TradeOperation)

/-- What the DEX leg moved. -/
def dexDelta : Int :=
  (operation.dexResult.map LegResult.tokenBDeltaBaseUnits).getD 0

/-- What the CEX leg executed. -/
def cexExecuted : Int :=
  (operation.cexResult.map executedDelta).getD 0

def tokenADeltas : List Int :=
  operation.legResults.map LegResult.tokenADeltaBaseUnits

def tokenBDeltas : List Int :=
  operation.legResults.map LegResult.tokenBDeltaBaseUnits

def gasCosts : List Nat :=
  operation.legResults.map LegResult.gasCostTokenABaseUnits

end TradeOperation

open TradeOperation

/-- No sum of the accounting leaves `i128`. -/
structure Unsaturated (operation : TradeOperation) : Prop where
  tokenA : ∀ k, FitsInt 128 (operation.tokenADeltas.take k).sum
  tokenB : ∀ k, FitsInt 128 (operation.tokenBDeltas.take k).sum
  gas : (operation.gasCosts.sum : Int) ≤ i128Max
  net : FitsInt 128 (operation.tokenADeltas.sum - operation.gasCosts.sum)

/-- The residual at the quote of the admission for the planned amount, rounded down: in magnitude
this is down for a long residual and up for a short one. -/
def markedResidual (operation : TradeOperation) : Int :=
  match operation.intent.admission with
  | none => 0
  | some admission =>
    operation.tokenBDeltas.sum * admission.recoveryQuoteForResidual operation.tokenBDeltas.sum /
      operation.intent.plannedTokenBBaseUnits

/-- The recorded result is the account of the legs. -/
structure Accounts (operation : TradeOperation) (result : ArbitrageResult) : Prop where
  realized : Unsaturated operation → result.realizedProfitTokenABaseUnits =
    operation.tokenADeltas.sum - operation.gasCosts.sum
  residualValue : Unsaturated operation →
    result.residualValueTokenABaseUnits = markedResidual operation
  comparable : result.comparableProfitTokenABaseUnits =
    result.realizedProfitTokenABaseUnits + result.residualValueTokenABaseUnits
  outcome : result.outcome = .balancedProfit ↔ 0 ≤ result.comparableProfitTokenABaseUnits
  stage : operation.stage = .balancedProfit ↔ result.outcome = .balancedProfit

/-- A trade whose legs are settled and match.  The step is an `i128`, and the code negates the DEX
delta, which saturates for the least `i128`. -/
structure Balanced (operation : TradeOperation) : Prop where
  known : operation.hasUnknownLeg = false
  dexSettled : operation.dexDispatched = true → operation.dexResult.isSome = true
  cexSettled : operation.cexDispatched = true → operation.cexResult.isSome = true
  idle : operation.recoveryInflight = false
  proven : ∀ dex, operation.dexResult = some dex → dex.status = .failed →
    dex.dexFailureProvesZeroExposure = true
  matched : operation.recoveryResults ≠ [] ∨
    (FitsInt 128 (-operation.dexDelta) → operation.intent.tokenBStepBaseUnits ≤ i128Max →
      |operation.dexDelta + operation.cexExecuted| < max operation.intent.tokenBStepBaseUnits 1)
  accounted : ∃ result, operation.result = some result ∧ Accounts operation result

/-! ## The result -/

section Result

variable {op next : TradeOperation}

theorem saturatingSum_eq {values : List Int} (fits : ∀ k, FitsInt 128 (values.take k).sum) :
    saturatingSum values = values.sum := by
  have sum := foldl_saturateInt (w := 128) values 0 (by simpa using fits)
  simpa [saturatingSum] using sum

theorem Unsaturated.realized (unsaturated : Unsaturated op) :
    op.realizedProfitTokenABaseUnits.1 =
      op.tokenADeltas.sum - op.gasCosts.sum := by
  have gasFits : op.gasCosts.sum < 2 ^ 128 := by
    have bound := unsaturated.gas
    rw [i128Max] at bound
    omega
  have gas : op.realizedProfitTokenABaseUnits.2 = op.gasCosts.sum := by
    have sum := foldl_saturateNat (w := 128) op.gasCosts 0 (by simpa using gasFits)
    simpa [realizedProfitTokenABaseUnits, gasCosts] using sum
  have tokenA := saturatingSum_eq unsaturated.tokenA
  calc op.realizedProfitTokenABaseUnits.1
      = saturateInt 128 (saturatingSum op.tokenADeltas -
          min (op.realizedProfitTokenABaseUnits.2 : Int) i128Max) := rfl
    _ = saturateInt 128 (op.tokenADeltas.sum - op.gasCosts.sum) := by
        rw [tokenA, gas, min_eq_left unsaturated.gas]
    _ = op.tokenADeltas.sum - op.gasCosts.sum := saturateInt_of_fits unsaturated.net

variable {planned magnitude : Nat}

/-- Division rounds down, so a negative numerator is rounded away from zero. -/
theorem neg_natCast_ediv (numerator : Nat) (positive : 0 < planned) :
    -(numerator : Int) / planned =
      -((if numerator % planned ≠ 0 then numerator / planned + 1 else numerator / planned : Nat) :
        Int) := by
  have split : (planned : Int) * (numerator / planned : Nat) + (numerator % planned : Nat) =
      numerator := by exact_mod_cast Nat.div_add_mod numerator planned
  have small : ((numerator % planned : Nat) : Int) < planned := by
    exact_mod_cast Nat.mod_lt numerator positive
  have isPositive : (0 : Int) < planned := by exact_mod_cast positive
  by_cases exact_ : numerator % planned = 0
  · rw [if_neg (by simpa using exact_)]
    rw [exact_] at split
    refine ((Int.ediv_emod_unique (r := 0) isPositive).mpr ⟨?_, le_refl 0, isPositive⟩).1
    push_cast at split ⊢
    linarith
  · rw [if_pos exact_]
    have nonzero : (0 : Int) < (numerator % planned : Nat) := by omega
    refine ((Int.ediv_emod_unique (r := planned - (numerator % planned : Nat)) isPositive).mpr
      ⟨?_, by omega, by omega⟩).1
    push_cast at split ⊢
    linarith

theorem roundedMark_eq {residual : Int} {numerator : Nat}
    (rounded : roundedMark residual numerator planned = .ok magnitude) :
    magnitude = if residual < 0 ∧ numerator % planned ≠ 0 then numerator / planned + 1
      else numerator / planned := by
  unfold roundedMark at rounded
  split at rounded
  · rename_i up
    rw [orError_eq_ok, checkedAdd_eq_some] at rounded
    rw [if_pos up, rounded.2]
  · rename_i down
    cases rounded
    rw [if_neg down]

/-- The signed magnitude is the floor of the pro-rata value. -/
theorem signedMark_eq {total planned : Int} {quote : Nat} (positive : 0 < planned)
    (nonzero : total ≠ 0)
    (rounded : roundedMark total (total.natAbs * quote) planned.natAbs = .ok magnitude) :
    (if 0 < total then (magnitude : Int) else -magnitude) = total * quote / planned := by
  obtain ⟨amount, rfl⟩ : ∃ amount : Nat, planned = amount := ⟨planned.natAbs, by omega⟩
  have isMagnitude := roundedMark_eq rounded
  rcases Int.eq_nat_or_neg total with ⟨size, rfl | rfl⟩
  · have long : (0 : Int) < size := by omega
    simp only [Int.natAbs_natCast] at isMagnitude
    rw [if_pos long, isMagnitude, if_neg (by omega)]
    push_cast
    rfl
  · have short : -(size : Int) < 0 := by omega
    simp only [Int.natAbs_neg, Int.natAbs_natCast, short, true_and] at isMagnitude
    have floor := neg_natCast_ediv (size * quote) (show 0 < amount by omega)
    rw [if_neg (by omega), isMagnitude, ← floor]
    push_cast
    rw [Int.neg_mul]

/-- The checked mark of a residual is its exact mark. -/
theorem residualValue_eq (intent : op.intent.validate = .ok ()) {value : Int}
    (marked : residualValueTokenABaseUnits op = .ok value)
    (residual : op.tokenBResidualBaseUnits = op.tokenBDeltas.sum) :
    value = markedResidual op := by
  unfold residualValueTokenABaseUnits at marked
  unfold markedResidual
  rw [residual] at marked
  generalize op.tokenBDeltas.sum = total at marked
  cases isAdmission : op.intent.admission with
  | none =>
    simp only [isAdmission, ite_self] at marked
    cases marked
    rfl
  | some admission =>
    simp only [isAdmission] at marked
    split at marked
    · rename_i isZero
      cases marked
      simp [isZero]
    rename_i nonzero
    simp only [bind_eq_ok, require_eq_ok, orError_eq_ok, pure_eq_ok, checkedMul, checkedNat_eq_some,
      checkedInt_eq_some] at marked
    obtain ⟨_, positive, _, _, numerator, ⟨_, isNumerator⟩, magnitude, rounded, _, ⟨_, rfl⟩, _,
      ⟨_, rfl⟩, rfl⟩ := marked
    have planned : 0 < op.intent.plannedTokenBBaseUnits := by
      simp only [TradeIntent.validate, bind_eq_ok, require_eq_ok] at intent
      obtain ⟨_, _, _, _, _, _, _, _, _, _, _, _, _, isPositive, _⟩ := intent
      exact isPositive
    rw [isNumerator] at rounded
    exact signedMark_eq planned nonzero rounded

theorem finalizeBalanced_accounts (intent : op.intent.validate = .ok ())
    (finalized : finalizeBalanced op = .ok next) :
    ∃ result, next.result = some result ∧ Accounts next result := by
  simp only [finalizeBalanced, bind_eq_ok, orError_eq_ok, checkedInt_eq_some, pure_eq_ok] at finalized
  obtain ⟨_, _, value, marked, comparable, ⟨_, isComparable⟩, rfl⟩ := finalized
  refine ⟨_, rfl, fun unsaturated => ?_, fun unsaturated => ?_, isComparable, ?_, ?_⟩
  · have before : Unsaturated op :=
      ⟨unsaturated.tokenA, unsaturated.tokenB, unsaturated.gas, unsaturated.net⟩
    exact before.realized
  · exact residualValue_eq intent marked (saturatingSum_eq unsaturated.tokenB)
  · by_cases profitable : 0 ≤ comparable <;> simp [profitable]
  · by_cases profitable : 0 ≤ comparable <;> simp [profitable]

end Result

/-! ## The legs -/

section Legs

variable {op next : TradeOperation} {commands : List CoordinatorCommand}

/-- A DEX leg that is known and not filled with an amount has moved nothing. -/
theorem Shape.dexDelta_eq_zero (shape : Shape op) (known : op.hasUnknownLeg = false)
    (unfilled : ∀ dex, op.dexResult = some dex →
      ¬(dex.status = .filled ∧ dex.tokenBDeltaBaseUnits ≠ 0)) : op.dexDelta = 0 := by
  unfold dexDelta
  cases isDex : op.dexResult with
  | none => rfl
  | some dex =>
    have listed : dex ∈ op.legResults := by
      simp [legResults, isDex]
    have notUnknown : dex.status ≠ .unknown := by
      intro unknown
      rw [hasUnknownLeg, List.any_eq_false] at known
      exact known dex listed (by simp [unknown])
    cases status : dex.status with
    | unknown => exact absurd status notUnknown
    | failed => exact (shape.failed dex listed status).1
    | filled => simpa [status] using unfilled dex isDex

/-- Without a CEX leg nothing was executed there. -/
theorem Shape.cexExecuted_eq_zero (shape : Shape op)
    (unhedged : op.cexDispatched = false) : op.cexExecuted = 0 := by
  unfold cexExecuted
  cases isCex : op.cexResult with
  | none => rfl
  | some cex =>
    have dispatched := shape.cexResult (by simp [isCex])
    rw [unhedged] at dispatched
    cases dispatched

variable {cex dex : LegResult}

/-- The target before the step is taken into account. -/
theorem primaryTarget_eq (isDex : op.dexResult = some dex) (isCex : op.cexResult = some cex) :
    op.primaryRecoveryTargetTokenBDeltaBaseUnits =
      some (if op.belowStep (saturateInt 128 (saturateInt 128 (-op.dexDelta) -
          op.cexExecuted)) then 0
        else saturateInt 128 (saturateInt 128 (-op.dexDelta) - op.cexExecuted)) := by
  simp [primaryRecoveryTargetTokenBDeltaBaseUnits, dexDelta,
    cexExecuted, isDex, isCex]

/-- An integer whose saturated value is below a step that fits is itself below it. -/
theorem abs_lt_of_saturated {gap step : Int} (fits : step ≤ i128Max)
    (small : saturateInt 128 gap = 0 ∨ 0 < step ∧ (saturateInt 128 gap).natAbs < step.natAbs) :
    |gap| < max step 1 := by
  rw [i128Max] at fits
  unfold saturateInt at small
  rw [abs_lt]
  omega

theorem matched_of_target (isDex : op.dexResult = some dex) (isCex : op.cexResult = some cex)
    (zero : op.primaryRecoveryTargetTokenBDeltaBaseUnits.getD 0 = 0)
    (negates : FitsInt 128 (-op.dexDelta)) (fits : op.intent.tokenBStepBaseUnits ≤ i128Max) :
    |op.dexDelta + op.cexExecuted| < max op.intent.tokenBStepBaseUnits 1 := by
  rw [primaryTarget_eq isDex isCex, Option.getD_some, saturateInt_of_fits negates] at zero
  rw [← abs_neg, Int.neg_add, ← Int.sub_eq_add_neg]
  refine abs_lt_of_saturated fits ?_
  split at zero
  · rename_i below
    exact Or.inr (by simpa [belowStep] using below)
  · exact Or.inl zero

theorem balanced_of_finalizeBalanced (finalized : finalizeBalanced op = .ok next)
    (intent : op.intent.validate = .ok ())
    (matched : op.recoveryResults ≠ [] ∨ (FitsInt 128 (-op.dexDelta) →
      op.intent.tokenBStepBaseUnits ≤ i128Max →
      |op.dexDelta + op.cexExecuted| < max op.intent.tokenBStepBaseUnits 1)) :
    Balanced next := by
  have accounted := finalizeBalanced_accounts intent finalized
  obtain ⟨finalizable, stage, result, _, rfl⟩ := finalizeBalanced_eq_ok finalized
  obtain ⟨known, dex, cex, idle, proven⟩ := checkFinalizable_eq_ok.mp finalizable
  refine ⟨known, fun dispatched => ?_, fun dispatched => ?_, idle, fun result isDex failed => ?_,
    matched, accounted⟩
  · simpa [show op.dexDispatched = true from dispatched] using dex
  · simpa [show op.cexDispatched = true from dispatched] using cex
  · simpa [show op.dexResult = some result from isDex, failed] using proven

theorem Shape.closeUnhedged_matched (shape : Shape op) (known : op.hasUnknownLeg = false)
    (unhedged : op.cexDispatched = false)
    (unfilled : ∀ dex, op.dexResult = some dex →
      ¬(dex.status = .filled ∧ dex.tokenBDeltaBaseUnits ≠ 0)) :
    |op.dexDelta + op.cexExecuted| < max op.intent.tokenBStepBaseUnits 1 := by
  rw [shape.dexDelta_eq_zero known unfilled, shape.cexExecuted_eq_zero unhedged]
  simp

/-- The primary legs of a trade that `take_commands` finds matched. -/
theorem Shape.closeMatched_matched (shape : Shape op) (recoverable : Recoverable op)
    (zero : op.primaryRecoveryTargetTokenBDeltaBaseUnits.getD 0 = 0)
    (hedged : Hedged op) (negates : FitsInt 128 (-op.dexDelta))
    (fits : op.intent.tokenBStepBaseUnits ≤ i128Max) :
    |op.dexDelta + op.cexExecuted| < max op.intent.tokenBStepBaseUnits 1 := by
  obtain ⟨dexSome, cexSome⟩ := primaryFinished_iff.mp recoverable.finished
  obtain ⟨dex, isDex⟩ := Option.isSome_iff_exists.mp dexSome
  cases isCex : op.cexResult with
  | some cex => exact matched_of_target isDex isCex zero negates fits
  | none =>
    have unhedged : op.cexDispatched = false := by
      by_contra dispatched
      rw [Bool.not_eq_false] at dispatched
      have isSome := cexSome dispatched
      rw [isCex] at isSome
      cases isSome
    -- both legs of a concurrent trade are sent together
    have mode : op.intent.mode = .dexFirst := by
      cases isMode : op.intent.mode with
      | dexFirst => rfl
      | concurrentHedged =>
        have together := shape.together isMode recoverable.dispatched
        rw [unhedged] at together
        cases together
    refine shape.closeUnhedged_matched recoverable.known unhedged fun other isOther => hedged other ?_
    exact unhedgedDexResult_eq_some.mpr ⟨⟨mode, unhedged⟩, isOther⟩

/-- A closed trade was closed by the move, or was closed before it. -/
theorem Shape.move_balanced (shape : Shape op) (move : Move op commands next)
    (terminal : next.stage.terminal = true) : Balanced next ∨ op.stage.terminal = true ∧
      ∃ price, next = { op with cexExecutionLimitPrice := price } := by
  have absurdOpen : next.stage = op.stage → op.stage.terminal = false → False := by
    intro same open_
    rw [same, open_] at terminal
    cases terminal
  cases move with
  | closeUnhedged underway _ unhedged result failed finalized =>
    refine Or.inl (balanced_of_finalizeBalanced finalized shape.intent (Or.inr fun _ _ => ?_))
    refine shape.closeUnhedged_matched underway.known unhedged fun dex isDex => ?_
    rw [result] at isDex
    cases isDex
    simp [failed]
  | closeMatched recoverable _ zero hedged finalized =>
    exact Or.inl (balanced_of_finalizeBalanced finalized shape.intent
      (Or.inr (shape.closeMatched_matched recoverable zero hedged)))
  | closeRecovered _ recovered finalized =>
    exact Or.inl (balanced_of_finalizeBalanced finalized shape.intent (Or.inl recovered))
  | correct falsely _ finalized =>
    exact Or.inl (balanced_of_finalizeBalanced finalized shape.intent (Or.inl (by simp)))
  | select _ _ _ limitPrice => exact Or.inr ⟨terminal, some limitPrice, rfl⟩
  | hedge underway => exact (absurdOpen rfl underway.notTerminal).elim
  | retryRecovery recoverable => exact (absurdOpen rfl recoverable.notTerminal).elim
  | recordDex open_ | recordCex open_ | recordRecovery open_ => exact (absurdOpen rfl open_).elim
  | reconcileDex | reconcileCex =>
    dsimp only at terminal
    split at terminal <;> cases terminal
  | _ => cases terminal

/-- The price of the CEX leg is not part of the balance. -/
theorem Balanced.select (balanced : Balanced op) (price : Option Decimal) :
    Balanced { op with cexExecutionLimitPrice := price } := by
  obtain ⟨result, isResult, accounts⟩ := balanced.accounted
  refine ⟨balanced.known, balanced.dexSettled, balanced.cexSettled, balanced.idle, balanced.proven,
    balanced.matched, result, isResult, ?_⟩
  exact ⟨fun h => accounts.realized ⟨h.tokenA, h.tokenB, h.gas, h.net⟩,
    fun h => accounts.residualValue ⟨h.tokenA, h.tokenB, h.gas, h.net⟩, accounts.comparable,
    accounts.outcome, accounts.stage⟩

end Legs

/-! ## Over runs -/

section Runs

variable {planId : String} {last : Session} {file : AppendLog.File WirePayload}
  {journal : TradeJournal} {op : TradeOperation}

theorem Balanced.stored (balanced : Balanced op) : Balanced op.stored := by
  obtain ⟨result, isResult, accounts⟩ := balanced.accounted
  have tokenA : op.stored.tokenADeltas = op.tokenADeltas := by
    rw [tokenADeltas, legResults_stored, List.map_map]
    rfl
  have tokenB : op.stored.tokenBDeltas = op.tokenBDeltas := by
    rw [tokenBDeltas, legResults_stored, List.map_map]
    rfl
  have gas : op.stored.gasCosts = op.gasCosts := by
    rw [gasCosts, legResults_stored, List.map_map]
    rfl
  have dexDelta : op.stored.dexDelta = op.dexDelta := by
    unfold TradeOperation.dexDelta TradeOperation.stored
    cases op.dexResult <;> rfl
  have cexExecuted : op.stored.cexExecuted = op.cexExecuted := by
    unfold TradeOperation.cexExecuted TradeOperation.stored
    cases op.cexResult <;> rfl
  have unsaturated : Unsaturated op.stored → Unsaturated op := by
    rintro ⟨fitsA, fitsB, fitsGas, fitsNet⟩
    rw [tokenA] at fitsA fitsNet
    rw [tokenB] at fitsB
    rw [gas] at fitsGas fitsNet
    exact ⟨fitsA, fitsB, fitsGas, fitsNet⟩
  refine ⟨?_, fun dispatched => ?_, fun dispatched => ?_, balanced.idle, fun dex isDex failed => ?_,
    ?_, result, isResult, ?_⟩
  · rw [hasUnknownLeg_stored]
    exact balanced.known
  · simpa [TradeOperation.stored] using balanced.dexSettled dispatched
  · simpa [TradeOperation.stored] using balanced.cexSettled dispatched
  · obtain ⟨original, isOriginal, rfl⟩ := Option.map_eq_some_iff.mp isDex
    exact balanced.proven original isOriginal failed
  · rw [dexDelta, cexExecuted]
    simpa [TradeOperation.stored] using balanced.matched
  · refine ⟨fun fits => ?_, fun fits => ?_, accounts.comparable, accounts.outcome, accounts.stage⟩
    · rw [tokenA, gas]
      exact accounts.realized (unsaturated fits)
    · rw [accounts.residualValue (unsaturated fits), markedResidual, markedResidual, tokenB]
      rfl

/-- The trade was closed when the journal was opened, and no call has closed it again. -/
def ClosedBefore (first : Option TradeOperation) (operation : TradeOperation) : Prop :=
  ∃ closed, first = some closed ∧ closed.stage.terminal = true ∧
    operation.result = closed.result ∧ operation.operatorRecovery = closed.operatorRecovery

def BalancedNow (first : Option TradeOperation) : TradeInvariant :=
  fun _ _ now => ∀ operation, now = some operation → Shape operation ∧
    (operation.stage.terminal = true → Balanced operation ∨ ClosedBefore first operation)

theorem balancedNow_inductive (planId : String) (first : Option TradeOperation) :
    Inductive planId anyChange (BalancedNow first) where
  progress := by
    intro intact emitted before commands next holds progress _ valid own op isOperation
    cases isOperation
    cases progress with
    | admitted intent => exact ⟨.prepared (validateOperation_spec valid).1, nofun⟩
    | moved move =>
      obtain ⟨shape, closed⟩ := holds _ rfl
      refine ⟨shape.move move (failed_of_validateOperation valid), fun terminal => ?_⟩
      rcases shape.move_balanced move terminal with balanced | ⟨wasTerminal, price, rfl⟩
      · exact Or.inl balanced
      · rcases closed wasTerminal with balanced | before
        · exact Or.inl (balanced.select price)
        · exact Or.inr before
  forget := fun holds => holds
  stored := by
    intro intact emitted op holds other isOther
    cases isOther
    obtain ⟨shape, closed⟩ := holds op rfl
    refine ⟨shape.stored, fun terminal => ?_⟩
    rcases closed terminal with balanced | before
    · exact Or.inl balanced.stored
    · exact Or.inr before

/-- Every trade that is closed in a run is balanced.  The journal may have had trades when it was
opened, closed ones among them that an operator then corrects. -/
theorem closed_trades_are_balanced (opened : TradeJournal.openFile file = .ok journal)
    (readBack : ∀ first, journal.operation? planId = some first → Shape first ∧ first.stored = first)
    (run : SessionRun planId (.start journal) last)
    (found : last.journal.operation? planId = some operation)
    (terminal : operation.stage.terminal = true) :
    Balanced operation ∨ ClosedBefore (journal.operation? planId) operation := by
  have follows : (journal.operation? planId).map stored =
      journal.operation? planId := by
    cases isFirst : journal.operation? planId with
    | none => rfl
    | some first => rw [Option.map_some, (readBack first isFirst).2]
  have start : Keeps planId (BalancedNow (journal.operation? planId)) (.start journal) := by
    refine keeps_opened opened follows.symm fun first isFirst => ⟨(readBack first isFirst).1, ?_⟩
    exact fun isTerminal => Or.inr ⟨first, isFirst, isTerminal, rfl, rfl⟩
  have memory := (run.keeps (balancedNow_inductive planId _) start).memory
  exact (memory operation found).2 terminal

end Runs

/-- The second recovery of `twoAttempts` sells what the DEX leg bought, and the trade is closed. -/
def recoveredTrade : Session :=
  twoAttempts.afterCalls "plan-1" [
    (writesAt 1000, .recordResult "plan-1" .recoveryCex (plainResult .filled (-1000) 105 "cex:77")),
    (writesAt 1000, .takeCommands "plan-1")]

theorem recovered_trade_is_balanced :
    ∃ operation, recoveredTrade.journal.operation? "plan-1" = some operation ∧
      operation.stage = .balancedProfit ∧ Balanced operation := by
  have stage : (recoveredTrade.journal.operation? "plan-1").map stage =
      some .balancedProfit := by decide +kernel
  obtain ⟨operation, found, isProfit⟩ := Option.map_eq_some_iff.mp stage
  refine ⟨operation, found, isProfit, ?_⟩
  have opened : TradeJournal.openFile ⟨[], false⟩ = .ok emptyTradeJournal := rfl
  have run : SessionRun "plan-1" (.start emptyTradeJournal) recoveredTrade :=
    (sessionRun_afterCalls "plan-1" _ _).trans (sessionRun_afterCalls "plan-1" _ _)
  have absent : emptyTradeJournal.operation? "plan-1" = none := rfl
  rcases closed_trades_are_balanced opened (fun first isFirst => by rw [absent] at isFirst; cases isFirst)
    run found (by rw [isProfit]; rfl) with balanced | ⟨_, isFirst, _⟩
  · exact balanced
  · rw [absent] at isFirst
    cases isFirst

end PolyBot.Trade
