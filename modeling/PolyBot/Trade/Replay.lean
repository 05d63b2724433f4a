import PolyBot.Trade.Dispatch

/-!
# Replay of the trade journal

The journal counts its open trades and the unresolved trades of each strategy as it goes, and reads
only the trades back from its file.  Here it is driven by any sequence of calls whose writes reach
the disk, with restarts between them, from an empty file.

* `checkSnapshot_stored`, `validateOperation_stored`: what the memory takes the reader takes.
* `Indexed.apply`: the two counts stay those of the trades.
* `checkTransition_evolves`: how a trade may go on.
* `Faithful.after`: the invariant of the runs, with what one step makes of each trade.
* `trade_replay_is_memory_while_counted`: the main result.
-/

namespace PolyBot.Trade

open AppendLog Proc TradeOperation KeyedMap Std

/-! ## What the reader takes -/

section Reader

theorem LegResult.validate_stored {result : LegResult} (valid : result.validate = .ok ()) :
    result.stored.validate = .ok () := by
  simp only [LegResult.validate, bind_eq_ok, require_eq_ok] at valid ⊢
  obtain ⟨_, reference, _, unmoved, _, unexecuted, _, priced, _, _, _⟩ := valid
  exact ⟨(), reference, (), unmoved, (), unexecuted, (), priced, (), Or.inl ⟨rfl, rfl⟩, Or.inl rfl⟩

theorem tokenBResidualBaseUnits_stored (op : TradeOperation) :
    op.stored.tokenBResidualBaseUnits = op.tokenBResidualBaseUnits := by
  unfold tokenBResidualBaseUnits
  rw [legResults_stored, List.map_map]
  rfl

theorem retryDeadlineFits_stored (op : TradeOperation) :
    retryDeadlineFits op.stored = retryDeadlineFits op := by
  simp only [retryDeadlineFits, stored, List.length_map, List.getLast?_map,
    Option.any_map]
  rfl

theorem validateOperatorRecovery_stored (op : TradeOperation)
    (evidence : OperatorRecoveryEvidence) :
    validateOperatorRecovery op.stored evidence =
      validateOperatorRecovery op evidence := by
  simp only [validateOperatorRecovery, tokenBResidualBaseUnits_stored]
  simp only [stored, List.head?_map, List.length_map]
  cases op.dexResult <;> cases op.recoveryResults.head? <;> rfl

theorem validateOperation_stored {op : TradeOperation}
    (valid : validateOperation op = .ok ()) : validateOperation op.stored = .ok () := by
  simp only [validateOperation, bind_eq_ok, require_eq_ok, forM_eq_ok] at valid ⊢
  obtain ⟨_, intent, _, few, _, deadline, _, results, _, result, _, reason, recovery⟩ := valid
  refine ⟨(), intent, (), ?_, (), ?_, (), ?_, (), result, (), reason, ?_⟩
  · simpa [stored] using few
  · rw [retryDeadlineFits_stored]
    exact deadline
  · intro result mem
    rw [legResults_stored] at mem
    obtain ⟨original, isMem, rfl⟩ := List.mem_map.mp mem
    exact LegResult.validate_stored (results original isMem)
  · rw [funext (validateOperatorRecovery_stored op)]
    exact recovery

variable {previous next : TradeOperation}

theorem operatorTerminalCorrectionAllowed_stored (previous next : TradeOperation) :
    operatorTerminalCorrectionAllowed previous.stored next.stored =
      operatorTerminalCorrectionAllowed previous next := by
  unfold operatorTerminalCorrectionAllowed
  rw [tokenBResidualBaseUnits_stored]
  simp only [stored, Option.isNone_map, List.isEmpty_map, List.length_map,
    Option.any_map, List.head?_map]
  rfl

theorem resultIsUnchangedOrReconciled_stored {previous next : Option LegResult}
    (follows : resultIsUnchangedOrReconciled previous next = true) :
    resultIsUnchangedOrReconciled (previous.map LegResult.stored) (next.map LegResult.stored) =
      true := by
  cases previous with
  | none => simp [resultIsUnchangedOrReconciled]
  | some previous =>
    cases next with
    | none => simp [resultIsUnchangedOrReconciled] at follows
    | some next =>
      simp only [resultIsUnchangedOrReconciled, Option.some.injEq, Option.isNone_some,
        Bool.or_false, Bool.or_eq_true, decide_eq_true_eq, Bool.and_eq_true] at follows
      simp only [resultIsUnchangedOrReconciled, Option.map_some, Option.some.injEq,
        Option.isNone_some, Bool.or_false, Bool.or_eq_true, decide_eq_true_eq, Bool.and_eq_true]
      rcases follows with same | reconciled
      · exact Or.inl (congrArg LegResult.stored same)
      · exact Or.inr reconciled

theorem recoveryResultsAreAppendOnlyOrReconciled_stored {previous next : List LegResult}
    (follows : recoveryResultsAreAppendOnlyOrReconciled previous next = true) :
    recoveryResultsAreAppendOnlyOrReconciled (previous.map LegResult.stored)
      (next.map LegResult.stored) = true := by
  simp only [recoveryResultsAreAppendOnlyOrReconciled, Bool.or_eq_true, Bool.and_eq_true,
    decide_eq_true_eq, List.isPrefixOf_iff_prefix, List.length_map, List.isEmpty_map,
    ← List.map_dropLast, List.getLast?_map, Option.any_map] at follows ⊢
  rcases follows with grown | ⟨⟨⟨⟨length, nonempty⟩, before⟩, unknown⟩, known⟩
  · exact Or.inl (grown.map LegResult.stored)
  · refine Or.inr ⟨⟨⟨⟨length, nonempty⟩, ?_⟩, unknown⟩, known⟩
    rw [before]

theorem checkTransition_stored (follows : checkTransition previous next = .ok ()) :
    checkTransition previous.stored next.stored = .ok () := by
  simp only [checkTransition, bind_eq_ok, require_eq_ok,
    operatorTerminalCorrectionAllowed_stored] at follows ⊢
  obtain ⟨_, intent, _, terminal, _, stage, _, dexDispatched, _, cexDispatched, _, price, _, target,
    _, dexResult, _, cexResult, _, recovery, evidence⟩ := follows
  refine ⟨(), intent, (), terminal, (), stage, (), dexDispatched, (), cexDispatched, (), price, (),
    target, (), ?_, (), resultIsUnchangedOrReconciled_stored cexResult, (),
    recoveryResultsAreAppendOnlyOrReconciled_stored recovery, evidence⟩
  exact dexResult.imp_right resultIsUnchangedOrReconciled_stored

theorem checkSnapshot_stored {previous : Option TradeOperation}
    (follows : checkSnapshot previous next = .ok ()) :
    checkSnapshot (previous.map stored) next.stored = .ok () := by
  cases previous with
  | none => exact follows
  | some previous => exact checkTransition_stored follows

/-- The trades as they are read back. -/
def StoredAs (state : TradeState) (operations : Operations) : Prop :=
  ∀ planId, operations.get? planId =
    (state.operations.get? planId).map stored

/-- The reader follows the memory through every record that the memory takes. -/
theorem StoredAs.apply {state next : TradeState} {operations : Operations} {payload : WirePayload}
    (storedAs : StoredAs state operations) (applied : state.apply payload = .ok next) :
    ∃ written, openFormat.apply operations payload.stored = .ok written ∧ StoredAs next written := by
  obtain ⟨valid, follows, isNext⟩ := applySnapshot_eq_ok.mp (TradeState.apply_operations applied)
  refine ⟨operations.put payload.operation.stored, ?_, ?_⟩
  · refine applySnapshot_eq_ok.mpr ⟨validateOperation_stored valid, ?_, rfl⟩
    have before : operations.get? payload.stored.operation.planId =
        (state.operations.get? payload.operation.planId).map stored := storedAs _
    rw [before]
    exact checkSnapshot_stored follows
  · intro planId
    rw [isNext]
    by_cases own : payload.operation.planId = planId
    · subst own
      rw [get?_put_self]
      exact get?_put_self operations payload.operation.stored
    · have ownStored : payload.operation.stored.planId ≠ planId := own
      rw [get?_put_of_ne _ own, get?_put_of_ne _ ownStored]
      exact storedAs planId

end Reader

/-! ## The counts -/

/-- The index has, for each strategy, how often it is in the list. -/
def Counts (index : TreeMap String Nat) (strategies : List String) : Prop :=
  ∀ strategyId, index[strategyId]? =
    if strategies.count strategyId = 0 then none else some (strategies.count strategyId)

section Counts

variable {index : TreeMap String Nat} {strategies others : List String} {strategyId : String}

theorem counts_empty : Counts ∅ [] := by
  intro strategyId
  simp

theorem Counts.perm (counts : Counts index strategies) (perm : strategies.Perm others) :
    Counts index others := by
  intro strategyId
  rw [← perm.count_eq]
  exact counts strategyId

theorem Counts.add (counts : Counts index strategies) (few : strategies.length + 1 < 2 ^ 64) :
    Counts (addUnresolved index strategyId) (strategyId :: strategies) := by
  intro other
  have held : index.getD strategyId 0 = strategies.count strategyId := by
    rw [TreeMap.getD_eq_getD_getElem?, counts strategyId]
    split <;> simp_all
  have bound : strategies.count strategyId ≤ strategies.length := List.count_le_length
  have exact : saturateNat 64 (strategies.count strategyId + 1) = strategies.count strategyId + 1 := by
    unfold saturateNat
    omega
  rw [addUnresolved, held, exact, TreeMap.getElem?_insert]
  by_cases same : strategyId = other
  · subst same
    simp
  · rw [if_neg (by simpa using same), counts other, List.count_cons_of_ne same]

theorem Counts.remove (counts : Counts index (strategyId :: strategies)) :
    Counts (removeUnresolved index strategyId) strategies := by
  intro other
  have held : index[strategyId]? = some (strategies.count strategyId + 1) := by
    rw [counts strategyId]
    simp
  have unchanged : strategyId ≠ other → index[other]? =
      if strategies.count other = 0 then none else some (strategies.count other) := by
    intro differs
    rw [counts other, List.count_cons_of_ne differs]
  simp only [removeUnresolved, held, Nat.add_sub_cancel]
  by_cases same : strategyId = other
  · subst same
    split <;> simp_all
  · split
    · rw [TreeMap.getElem?_erase, if_neg (by simpa using same)]
      exact unchanged same
    · rw [TreeMap.getElem?_insert, if_neg (by simpa using same)]
      exact unchanged same

/-- Counting a list from the start. -/
theorem Counts.foldl (more : List String) (counts : Counts index strategies)
    (few : more.length + strategies.length < 2 ^ 64) :
    Counts (more.foldl addUnresolved index) (more ++ strategies) := by
  induction more generalizing index strategies with
  | nil => exact counts
  | cons strategyId more ih =>
    rw [List.length_cons] at few
    have added : Counts (addUnresolved index strategyId) (strategyId :: strategies) :=
      counts.add (by omega)
    have rest := ih added (by rw [List.length_cons]; omega)
    exact rest.perm List.perm_middle

/-- Two indexes of the same list are the same. -/
theorem Counts.ext {index' : TreeMap String Nat} (counts : Counts index strategies)
    (counts' : Counts index' strategies) (strategyId : String) :
    index[strategyId]? = index'[strategyId]? := by
  rw [counts strategyId, counts' strategyId]

end Counts

/-- The strategies of the unresolved trades. -/
def unresolvedStrategies (operations : List TradeOperation) : List String :=
  operations.filterMap unresolvedStrategyId

def activeCount (operations : List TradeOperation) : Nat :=
  (operations.filter active).length

theorem activeCount_cons (op : TradeOperation) (operations : List TradeOperation) :
    activeCount (op :: operations) =
      (if op.active then 1 else 0) + activeCount operations := by
  unfold activeCount
  cases isActive : op.active with
  | false => simp [isActive]
  | true => simp [isActive, Nat.add_comm]

theorem activeCount_append (operations others : List TradeOperation) :
    activeCount (operations ++ others) = activeCount operations + activeCount others := by
  unfold activeCount
  rw [List.filter_append, List.length_append]

theorem activeCount_perm {operations others : List TradeOperation} (perm : operations.Perm others) :
    activeCount operations = activeCount others :=
  (perm.filter _).length_eq

variable {op next : TradeOperation} {previous : Option TradeOperation} {journal : TradeJournal}
  {records : Nat}

theorem active_of_unresolved (unresolved : (unresolvedStrategyId op).isSome = true) :
    op.active = true := by
  unfold unresolvedStrategyId at unresolved
  split at unresolved
  · rename_i stage
    rcases stage with stage | stage <;> simp [active, stage, TradeStage.terminal]
  · cases unresolved

theorem length_unresolvedStrategies_le (operations : List TradeOperation) :
    (unresolvedStrategies operations).length ≤ activeCount operations := by
  induction operations with
  | nil => exact Nat.le_refl 0
  | cons op operations ih =>
    rw [activeCount_cons]
    unfold unresolvedStrategies at ih ⊢
    rw [List.filterMap_cons]
    cases isUnresolved : unresolvedStrategyId op with
    | none => exact Nat.le_add_left_of_le ih
    | some strategyId =>
      have active : op.active = true := active_of_unresolved (by rw [isUnresolved]; rfl)
      simp only [active, if_true, List.length_cons]
      omega

/-- What the journal counts is what its trades say. -/
structure Indexed (state : TradeState) : Prop where
  counted : state.activeOperationCount = activeCount state.operations.values
  fits : state.activeOperationCount < 2 ^ 64
  unresolved : Counts state.unresolvedByStrategy (unresolvedStrategies state.operations.values)

theorem Indexed.ofOperations {operations : Operations} (few : operations.values.length < 2 ^ 64) :
    Indexed (.ofOperations operations) := by
  have bound : activeCount operations.values ≤ operations.values.length :=
    List.length_filter_le _ _
  have unresolved := length_unresolvedStrategies_le operations.values
  refine ⟨rfl, ?_, ?_⟩
  · change activeCount operations.values < 2 ^ 64
    omega
  · have counts := counts_empty.foldl (unresolvedStrategies operations.values) (by simp; omega)
    rw [List.append_nil] at counts
    exact counts

theorem activeCount_toList (previous : Option TradeOperation) :
    activeCount previous.toList = if previous.any active then 1 else 0 := by
  cases previous with
  | none => rfl
  | some previous => exact activeCount_cons previous []

theorem nextActiveOperationCount_eq_ok {count after : Nat}
    (counted : nextActiveOperationCount count previous next = .ok after) (fits : count < 2 ^ 64) :
    after + activeCount previous.toList = count + (if next.active then 1 else 0) ∧
      after < 2 ^ 64 := by
  rw [activeCount_toList]
  unfold nextActiveOperationCount at counted
  cases wasActive : previous.any active with
  | false =>
    cases isActive : next.active with
    | false =>
      simp only [wasActive, isActive, Except.ok.injEq] at counted
      subst counted
      exact ⟨rfl, fits⟩
    | true =>
      simp only [wasActive, isActive, orError_eq_ok, checkedAdd_eq_some] at counted
      obtain ⟨below, rfl⟩ := counted
      exact ⟨rfl, below⟩
  | true =>
    cases isActive : next.active with
    | false =>
      simp only [wasActive, isActive, orError_eq_ok, checkedSub_eq_some] at counted
      obtain ⟨positive, rfl⟩ := counted
      simp only [if_true, Bool.false_eq_true, if_false]
      omega
    | true =>
      simp only [wasActive, isActive, Except.ok.injEq] at counted
      subst counted
      exact ⟨rfl, fits⟩

theorem updateUnresolvedStrategyIndex_counts {index : TreeMap String Nat}
    {rest : List TradeOperation}
    (counts : Counts index (unresolvedStrategies (previous.toList ++ rest)))
    (few : activeCount (next :: rest) < 2 ^ 64) :
    Counts (updateUnresolvedStrategyIndex index previous next)
      (unresolvedStrategies (next :: rest)) := by
  have removed : Counts
      (((previous.bind unresolvedStrategyId).map (removeUnresolved index)).getD index)
      (unresolvedStrategies rest) := by
    cases previous with
    | none => exact counts
    | some previous =>
      cases isUnresolved : unresolvedStrategyId previous with
      | none =>
        simpa [unresolvedStrategies, isUnresolved] using counts
      | some strategyId =>
        have listed : Counts index (strategyId :: unresolvedStrategies rest) := by
          simpa [unresolvedStrategies, isUnresolved] using counts
        simpa [isUnresolved] using listed.remove
  have bound := length_unresolvedStrategies_le (next :: rest)
  unfold updateUnresolvedStrategyIndex
  cases isUnresolved : unresolvedStrategyId next with
  | none =>
    simpa [unresolvedStrategies, isUnresolved] using removed
  | some strategyId =>
    have listed : unresolvedStrategies (next :: rest) = strategyId :: unresolvedStrategies rest := by
      simp [unresolvedStrategies, isUnresolved]
    rw [listed] at bound ⊢
    rw [List.length_cons] at bound
    exact removed.add (by omega)

theorem Indexed.apply {state next : TradeState} {payload : WirePayload} (indexed : Indexed state)
    (applied : state.apply payload = .ok next) : Indexed next := by
  simp only [TradeState.apply, bind_eq_ok, pure_eq_ok] at applied
  obtain ⟨operations, snapshot, count, counted, rfl⟩ := applied
  obtain ⟨_, _, rfl⟩ := applySnapshot_eq_ok.mp snapshot
  obtain ⟨balance, fits⟩ := nextActiveOperationCount_eq_ok counted indexed.fits
  have before := values_perm_get?_erase state.operations payload.operation.planId
  have after := values_put_perm state.operations payload.operation
  have countBefore := activeCount_perm before
  have countAfter := activeCount_perm after
  have total : count =
      activeCount (payload.operation :: (state.operations.erase payload.operation.planId).values) := by
    have held := indexed.counted
    rw [countBefore, activeCount_append] at held
    rw [activeCount_cons]
    omega
  refine ⟨total.trans countAfter.symm, fits, ?_⟩
  have unresolved := indexed.unresolved.perm (before.filterMap unresolvedStrategyId)
  refine (updateUnresolvedStrategyIndex_counts unresolved ?_).perm
    (after.filterMap unresolvedStrategyId).symm
  rw [← total]
  exact fits

/-! ## How a trade goes on -/

/-- The result stays, but for the events that are not journaled, or an unknown one becomes known. -/
def LegResult.Resolves (earlier later : LegResult) : Prop :=
  later.stored = earlier.stored ∨ earlier.status = .unknown ∧ later.status ≠ .unknown

/-- A result that is there stays there and resolves. -/
def SlotResolves (earlier later : Option LegResult) : Prop :=
  ∀ result, earlier = some result → ∃ next, later = some next ∧ result.Resolves next

/-- A trade and the same trade at some later time. -/
structure Evolves (earlier later : TradeOperation) : Prop where
  intent : later.intent = earlier.intent
  price : ∀ price, earlier.cexExecutionLimitPrice = some price →
    later.cexExecutionLimitPrice = some price
  target : ∀ target, earlier.recoveryTargetTokenBDeltaBaseUnits = some target →
    later.recoveryTargetTokenBDeltaBaseUnits = some target
  dexDispatched : earlier.dexDispatched = true → later.dexDispatched = true
  cexDispatched : earlier.cexDispatched = true → later.cexDispatched = true
  dexResult : SlotResolves earlier.dexResult later.dexResult
  cexResult : SlotResolves earlier.cexResult later.cexResult
  recoveryResults : ∀ i : Nat,
    SlotResolves earlier.recoveryResults[i]? later.recoveryResults[i]?
  terminal : earlier.stage.terminal = true → later.stored = earlier.stored

section Evolution

variable {first second third : TradeOperation}

theorem LegResult.status_eq_of_stored {first second : LegResult}
    (same : second.stored = first.stored) : second.status = first.status := by
  have status := congrArg LegResult.status same
  exact status

theorem LegResult.Resolves.trans {first second third : LegResult} (one : first.Resolves second)
    (two : second.Resolves third) : first.Resolves third := by
  rcases one with same | ⟨unknown, known⟩
  · have status := status_eq_of_stored same
    rcases two with sameAgain | ⟨unknown, known⟩
    · exact Or.inl (sameAgain.trans same)
    · exact Or.inr ⟨status ▸ unknown, known⟩
  · rcases two with same | ⟨unknownAgain, _⟩
    · have status := status_eq_of_stored same
      exact Or.inr ⟨unknown, fun again => known (status ▸ again)⟩
    · exact absurd unknownAgain known

theorem SlotResolves.trans {first second third : Option LegResult}
    (one : SlotResolves first second) (two : SlotResolves second third) :
    SlotResolves first third := by
  intro result held
  obtain ⟨next, heldNext, resolves⟩ := one result held
  obtain ⟨last, heldLast, resolvesAgain⟩ := two next heldNext
  exact ⟨last, heldLast, resolves.trans resolvesAgain⟩

theorem Evolves.trans (one : Evolves first second) (two : Evolves second third) :
    Evolves first third where
  intent := two.intent.trans one.intent
  price := fun price held => two.price price (one.price price held)
  target := fun target held => two.target target (one.target target held)
  dexDispatched := fun sent => two.dexDispatched (one.dexDispatched sent)
  cexDispatched := fun sent => two.cexDispatched (one.cexDispatched sent)
  dexResult := one.dexResult.trans two.dexResult
  cexResult := one.cexResult.trans two.cexResult
  recoveryResults := fun i => (one.recoveryResults i).trans (two.recoveryResults i)
  terminal := by
    intro closed
    have same := one.terminal closed
    have stage := congrArg stage same
    change second.stage = first.stage at stage
    rw [← stage] at closed
    exact (two.terminal closed).trans same

theorem slotResolves_map_stored (slot : Option LegResult) :
    SlotResolves slot (slot.map LegResult.stored) := by
  intro result held
  rw [held]
  exact ⟨result.stored, rfl, Or.inl rfl⟩

theorem slotResolves_refl (slot : Option LegResult) : SlotResolves slot slot :=
  fun result held => ⟨result, held, Or.inl rfl⟩

theorem evolves_stored (op : TradeOperation) : Evolves op op.stored where
  intent := rfl
  price := fun _ held => held
  target := fun _ held => held
  dexDispatched := id
  cexDispatched := id
  dexResult := slotResolves_map_stored _
  cexResult := slotResolves_map_stored _
  recoveryResults := by
    intro i
    change SlotResolves _ (op.recoveryResults.map LegResult.stored)[i]?
    rw [List.getElem?_map]
    exact slotResolves_map_stored _
  terminal := fun _ => op.stored_stored

theorem evolves_refl (op : TradeOperation) : Evolves op op where
  intent := rfl
  price := fun _ held => held
  target := fun _ held => held
  dexDispatched := id
  cexDispatched := id
  dexResult := slotResolves_refl _
  cexResult := slotResolves_refl _
  recoveryResults := fun _ => slotResolves_refl _
  terminal := fun _ => rfl

end Evolution

/-- A closed trade whose DEX leg failed has the proof that nothing was moved. -/
def ClosedWithProof (operation : TradeOperation) : Prop :=
  operation.stage.terminal = true → operation.dexResult.all
    (fun dex => dex.status ≠ .failed || dex.dexFailureProvesZeroExposure) = true

section Transition

variable {previous op next : TradeOperation} {commands : List CoordinatorCommand}

/-- An expired plan proves nothing about the chain. -/
theorem ClosedWithProof.not_expired (closed : ClosedWithProof op)
    (terminal : op.stage.terminal = true) :
    op.dexResult.any (fun result =>
      result.status = .failed && result.venueReference = "dex:expired-plan") = false := by
  have proven := closed terminal
  cases isResult : op.dexResult with
  | none => rfl
  | some dex =>
    rw [isResult] at proven
    by_contra expired
    simp only [Option.any_some, Bool.not_eq_false, Bool.and_eq_true, decide_eq_true_eq] at expired
    obtain ⟨failed, reference⟩ := expired
    have unproven : dex.dexFailureProvesZeroExposure = false := by
      unfold LegResult.dexFailureProvesZeroExposure
      rw [reference]
      simp only [failed, decide_true, Bool.true_and]
      decide +kernel
    simp [failed, unproven] at proven

theorem closedWithProof_of_finalized (finalized : finalizeBalanced op = .ok next) :
    ClosedWithProof next := by
  obtain ⟨finalizable, _, _, _, rfl⟩ := finalizeBalanced_eq_ok finalized
  simp only [checkFinalizable, bind_eq_ok, require_eq_ok] at finalizable
  obtain ⟨_, _, _, _, _, _, _, _, proven⟩ := finalizable
  exact fun _ => proven

/-- A trade is closed only by the checks, and a closed one is not corrected. -/
theorem ClosedWithProof.move (closed : ClosedWithProof op)
    (move : Move op commands next) : ClosedWithProof next := by
  have reconciled : ∀ results : List LegResult,
      (if results = [] then TradeStage.executing else .recovering).terminal = false := by
    intro results
    split <;> rfl
  cases move with
  | closeUnhedged _ _ _ _ _ finalized | closeMatched _ _ _ _ finalized
  | closeRecovered _ _ finalized => exact closedWithProof_of_finalized finalized
  | correct shape =>
    have notExpired := closed.not_expired shape.terminal
    rw [shape.expired] at notExpired
    cases notExpired
  | hedge underway | retryRecovery underway =>
    intro terminal
    exact absurd terminal (by simp [underway.notTerminal])
  | recordDex notTerminal | recordCex notTerminal | recordRecovery notTerminal =>
    intro terminal
    exact absurd terminal (by simp [notTerminal])
  | reconcileDex | reconcileCex =>
    intro terminal
    exact absurd terminal (by simp [reconciled])
  | block | dispatchBoth | dispatchDex | halt | beginRecovery | reconcileRecovery =>
    intro terminal
    cases terminal
  | select => exact closed

theorem slotResolves_of_checked {previous next : Option LegResult}
    (checked : resultIsUnchangedOrReconciled previous next = true) : SlotResolves previous next := by
  intro result held
  subst held
  cases next with
  | none => simp [resultIsUnchangedOrReconciled] at checked
  | some next =>
    simp only [resultIsUnchangedOrReconciled, Option.some.injEq, Option.isNone_some, Bool.or_false,
      Bool.or_eq_true, decide_eq_true_eq, Bool.and_eq_true] at checked
    refine ⟨next, rfl, ?_⟩
    rcases checked with same | reconciled
    · exact Or.inl (congrArg LegResult.stored same.symm)
    · exact Or.inr reconciled

theorem recoveryResolves_of_checked {previous next : List LegResult}
    (checked : recoveryResultsAreAppendOnlyOrReconciled previous next = true) (i : Nat) :
    SlotResolves previous[i]? next[i]? := by
  simp only [recoveryResultsAreAppendOnlyOrReconciled, Bool.or_eq_true, Bool.and_eq_true,
    decide_eq_true_eq, List.isPrefixOf_iff_prefix] at checked
  intro result held
  rcases checked with ⟨more, rfl⟩ | ⟨⟨⟨⟨length, _⟩, before⟩, unknown⟩, known⟩
  · have bound : i < previous.length := (List.getElem?_eq_some_iff.mp held).1
    rw [List.getElem?_append_left bound]
    exact slotResolves_refl _ result held
  · obtain ⟨bound, isResult⟩ := List.getElem?_eq_some_iff.mp held
    by_cases last : i = previous.length - 1
    · -- only the latest attempt may have been unknown
      have isLast : previous.getLast? = some result := by
        rw [List.getLast?_eq_getElem?, ← last]
        exact held
      cases isNext : next.getLast? with
      | none => simp [isNext] at known
      | some latest =>
        refine ⟨latest, ?_, Or.inr ?_⟩
        · rw [last, length, ← List.getLast?_eq_getElem?]
          exact isNext
        · simpa [isLast, isNext] using And.intro unknown known
    · have same : next[i]? = previous[i]? := by
        have early : i < previous.length - 1 := by omega
        have beforeAt := congrArg (fun results : List LegResult => results[i]?) before
        simp only [List.getElem?_dropLast, ← length, early, if_true] at beforeAt
        exact beforeAt.symm
      rw [same]
      exact slotResolves_refl _ result held

/-- The journal's own checks on a record of a trade that was closed properly, if it was. -/
theorem checkTransition_evolves (closed : ClosedWithProof previous)
    (checked : checkTransition previous op = .ok ()) : Evolves previous op := by
  have uncorrected : operatorTerminalCorrectionAllowed previous op = false := by
    by_contra corrected
    simp only [operatorTerminalCorrectionAllowed, Bool.not_eq_false, Bool.and_eq_true] at corrected
    have notExpired := closed.not_expired corrected.1.1.1.1.1.1.1.1.1.1.1.1.1.1
    simp_all
  simp only [checkTransition, bind_eq_ok, require_eq_ok, uncorrected, Bool.false_eq_true, false_or,
    or_false, keepsSelection, Bool.or_eq_true, Option.isNone_iff_eq_none, decide_eq_true_eq]
    at checked
  obtain ⟨_, intent, _, notTerminal, _, _, _, dexDispatched, _, cexDispatched, _, price, _, target,
    _, dexResult, _, cexResult, _, recovery, _⟩ := checked
  refine ⟨intent.symm, ?_, ?_, ?_, ?_, slotResolves_of_checked dexResult,
    slotResolves_of_checked cexResult, recoveryResolves_of_checked recovery, ?_⟩
  · intro selected held
    rcases price with unset | same
    · rw [unset] at held
      cases held
    · rw [← same]
      exact held
  · intro selected held
    rcases target with unset | same
    · rw [unset] at held
      cases held
    · rw [← same]
      exact held
  · intro sent
    rcases dexDispatched with unsent | again
    · rw [unsent] at sent
      cases sent
    · exact again
  · intro sent
    rcases cexDispatched with unsent | again
    · rw [unsent] at sent
      cases sent
    · exact again
  · intro terminal
    rw [notTerminal] at terminal
    cases terminal

end Transition

/-! ## Runs -/

/-- The clocks and the encoded length of a call whose record is written without a failure. -/
structure DurableEnv where
  now : Option Nat
  clock : Option Nat
  encodedLen : Option Nat

def DurableEnv.env (durable : DurableEnv) : Env :=
  ⟨durable.now, durable.clock, durable.encodedLen, .synced⟩

inductive JournalStep
  | call (durable : DurableEnv) (call : CoordinatorCall)
  | reopen

namespace TradeJournal

/-- The journal after one step; a file that cannot be opened leaves it as it is. -/
def after (journal : TradeJournal) : JournalStep → TradeJournal
  | .call durable call => (call.run durable.env).final journal
  | .reopen =>
    match openFile journal.file with
    | .ok reopened => reopened
    | .error _ => journal

def afterAll (journal : TradeJournal) (steps : List JournalStep) : TradeJournal :=
  steps.foldl after journal

end TradeJournal

open TradeJournal

/-- The file has what the memory has, the counts are right, and no trade was closed without proof. -/
structure Faithful (journal : TradeJournal) : Prop where
  mirrored : Mirrored openFormat StoredAs journal
  indexed : Indexed journal.state
  closed : ∀ planId operation, journal.operation? planId = some operation →
    ClosedWithProof operation

/-- Every trade of the earlier journal is in the later one and has gone on. -/
def Continues (earlier later : TradeJournal) : Prop :=
  ∀ planId operation, earlier.operation? planId = some operation →
    ∃ followed, later.operation? planId = some followed ∧ Evolves operation followed

section Runs

variable {journal : TradeJournal}

theorem continues_refl (journal : TradeJournal) : Continues journal journal :=
  fun _ op found => ⟨op, found, evolves_refl op⟩

theorem Continues.trans {first second third : TradeJournal} (one : Continues first second)
    (two : Continues second third) : Continues first third := by
  intro planId op found
  obtain ⟨followed, foundNext, evolves⟩ := one planId op found
  obtain ⟨last, foundLast, evolvesAgain⟩ := two planId followed foundNext
  exact ⟨last, foundLast, evolves.trans evolvesAgain⟩

variable {commands : List CoordinatorCommand} {op : TradeOperation}

/-- What a record makes of the trades when the memory takes it. -/
theorem Faithful.taken {sequence now : Nat} {next : TradeState} {after : TradeJournal}
    (faithful : Faithful journal) (progress : Progress (journal.operation? op.planId) commands op)
    (applied : journal.state.apply ⟨sequence, now, op⟩ = .ok next) (isNext : after.state = next) :
    (∀ planId op, after.operation? planId = some op → ClosedWithProof op) ∧
      Continues journal after := by
  obtain ⟨_, checked, _⟩ := applySnapshot_eq_ok.mp (TradeState.apply_operations applied)
  have memory := fun planId => (operation?_of_apply planId applied after isNext).2
  have closed : ClosedWithProof op := by
    cases was : journal.operation? op.planId with
    | none =>
      rw [was] at progress
      cases progress
      intro terminal
      cases terminal
    | some previous =>
      rw [was] at progress
      cases progress with
      | moved move => exact (faithful.closed _ previous was).move move
  constructor
  · intro planId found isFound
    rw [memory planId] at isFound
    split at isFound
    · cases isFound
      exact closed
    · exact faithful.closed planId found isFound
  · intro planId previous was
    rw [memory planId]
    split
    · rename_i own
      subst own
      refine ⟨op, rfl, checkTransition_evolves (faithful.closed _ previous was) ?_⟩
      change checkSnapshot (journal.operation? op.planId) op = .ok () at checked
      rw [was] at checked
      exact checked
    · exact ⟨previous, was, evolves_refl previous⟩

theorem Faithful.append (faithful : Faithful journal) (durable : DurableEnv)
    (progress : Progress (journal.operation? op.planId) commands op) :
    let after := (TradeJournal.append durable.env.io op).final journal
    Faithful after ∧ Continues journal after := by
  have mirrored : Mirrored openFormat StoredAs
      ((TradeJournal.append durable.env.io op).final journal) :=
    faithful.mirrored.append rfl (validateOperation op) (fun _ _ => rfl)
      (fun _ _ _ _ storedAs applied => storedAs.apply applied)
  have indexed : Indexed ((TradeJournal.append durable.env.io op).final journal).state :=
    append_state (P := Indexed) (fun _ _ _ indexed applied => indexed.apply applied) faithful.indexed
  have trades : wp (TradeJournal.append durable.env.io op)
      (fun _ after => (∀ planId op, after.operation? planId = some op →
        ClosedWithProof op) ∧ Continues journal after)
      (fun _ after => (∀ planId op, after.operation? planId = some op →
        ClosedWithProof op) ∧ Continues journal after) journal := by
    apply wp_append
    · exact fun _ => ⟨faithful.closed, continues_refl journal⟩
    · exact fun _ _ _ _ _ failed => absurd rfl failed
    · exact fun _ _ _ _ applied _ => faithful.taken progress applied rfl
    · exact fun _ _ _ _ _ applied _ => faithful.taken progress applied rfl
  obtain ⟨closed, continues⟩ := final_of_wp trades
  exact ⟨⟨mirrored, indexed, closed⟩, continues⟩

theorem Faithful.call (faithful : Faithful journal) (durable : DurableEnv) (call : CoordinatorCall) :
    let after := (call.run durable.env).final journal
    Faithful after ∧ Continues journal after := by
  refine final_of_wp (P := fun after => Faithful after ∧ Continues journal after) ?_
  refine wp_call (fun _ => ⟨faithful, continues_refl journal⟩) ⟨faithful, continues_refl journal⟩ ?_
  intro commands next journals
  exact wp_of_final (faithful.append durable journals.progress)

/-- A file has no more trades than records. -/
theorem length_values_le_sequence {records : List WirePayload} {acc : Operations × Nat}
    (replayed : replay openFormat records = .ok acc) : acc.1.values.length ≤ acc.2 := by
  refine foldlM_invariant (P := fun acc : Operations × Nat => acc.1.values.length ≤ acc.2) ?_ ?_
    replayed
  · intro acc record _ next few stepped
    obtain ⟨_, applied, _, isNext⟩ := loadStep_eq_ok.mp stepped
    obtain ⟨_, _, written⟩ := applySnapshot_eq_ok.mp applied
    have after := (values_put_perm acc.1 record.operation).length_eq
    have before := (values_perm_get?_erase acc.1 record.operation.planId).length_eq
    rw [List.length_append] at before
    rw [written, after, isNext, List.length_cons]
    omega
  · change (empty : Operations).values.length ≤ 0
    rw [values_empty]
    exact Nat.le_refl 0

theorem Faithful.reopen {reopened : TradeJournal} (faithful : Faithful journal)
    (opened : openFile journal.file = .ok reopened) :
    Faithful reopened ∧ Continues journal reopened := by
  obtain ⟨replayed, sound, sameFile⟩ := openFile_eq_ok opened
  obtain ⟨counted, fits⟩ := replay_sequence replayed
  obtain ⟨state, replayedTo, storedAs⟩ := faithful.mirrored.replays (by omega)
  have isState : reopened.state.operations = state :=
    congrArg Prod.fst (Except.ok.inj (replayed.symm.trans replayedTo))
  rw [← isState] at storedAs
  have trade : ∀ planId, reopened.operation? planId =
      (journal.operation? planId).map stored := storedAs
  have indexed : Indexed reopened.state := by
    simp only [openFile, bind_eq_ok, pure_eq_ok] at opened
    obtain ⟨log, loaded, rfl⟩ := opened
    have few := length_values_le_sequence (load_eq_ok loaded).1
    have bound := (replay_sequence (load_eq_ok loaded).1).2
    exact Indexed.ofOperations (few.trans_lt bound)
  refine ⟨⟨⟨sound, ?_, ?_⟩, indexed, ?_⟩, ?_⟩
  · rw [sameFile]
    exact faithful.mirrored.whole
  · intro _
    rw [sameFile]
    refine ⟨reopened.state.operations, replayed, ?_⟩
    intro planId
    change reopened.operation? planId = (reopened.operation? planId).map stored
    rw [trade planId, Option.map_map]
    cases journal.operation? planId with
    | none => rfl
    | some op => exact congrArg some op.stored_stored.symm
  · intro planId op found
    rw [trade planId, Option.map_eq_some_iff] at found
    obtain ⟨original, foundBefore, rfl⟩ := found
    intro terminal
    have proven := faithful.closed planId original foundBefore terminal
    change (original.dexResult.map LegResult.stored).all _ = true
    rw [Option.all_map]
    exact proven
  · intro planId op found
    refine ⟨op.stored, ?_, evolves_stored op⟩
    rw [trade planId, found]
    rfl

theorem Faithful.after (faithful : Faithful journal) (step : JournalStep) :
    Faithful (journal.after step) ∧ Continues journal (journal.after step) := by
  cases step with
  | call durable call => exact faithful.call durable call
  | reopen =>
    simp only [TradeJournal.after]
    cases opened : TradeJournal.openFile journal.file with
    | ok reopened => exact faithful.reopen opened
    | error => exact ⟨faithful, continues_refl journal⟩

theorem Faithful.afterAll (faithful : Faithful journal) (steps : List JournalStep) :
    Faithful (journal.afterAll steps) ∧ Continues journal (journal.afterAll steps) := by
  induction steps generalizing journal with
  | nil => exact ⟨faithful, continues_refl journal⟩
  | cons step steps ih =>
    obtain ⟨next, continues⟩ := faithful.after step
    obtain ⟨last, continuesAgain⟩ := ih next
    exact ⟨last, continues.trans continuesAgain⟩

theorem faithful_empty : Faithful emptyTradeJournal where
  mirrored := by
    refine ⟨rfl, rfl, fun _ => ⟨empty, rfl, ?_⟩⟩
    intro planId
    change empty.get? planId = (empty.get? planId).map stored
    rw [get?_empty]
    rfl
  indexed := by
    refine Indexed.ofOperations ?_
    rw [values_empty]
    exact Nat.two_pow_pos 64
  closed := by
    intro planId op found
    change empty.get? planId = some op at found
    rw [get?_empty] at found
    cases found

/-- One step writes at most one record. -/
theorem length_records_after (journal : TradeJournal) (step : JournalStep) :
    (journal.after step).file.records.length ≤ journal.file.records.length + 1 := by
  cases step with
  | reopen =>
    simp only [after]
    cases opened : openFile journal.file with
    | ok reopened =>
      obtain ⟨_, _, sameFile⟩ := openFile_eq_ok opened
      simp [sameFile]
    | error => exact Nat.le_succ _
  | call durable call =>
    refine final_of_wp (P := fun after : TradeJournal =>
      after.file.records.length ≤ journal.file.records.length + 1) ?_
    refine wp_call (fun _ => Nat.le_succ _) (Nat.le_succ _) ?_
    intro commands next _
    apply wp_append
    · exact fun _ => Nat.le_succ _
    · exact fun _ _ _ _ _ failed => absurd rfl failed
    · exact fun _ _ _ _ _ _ => List.length_append.le
    · exact fun _ _ _ _ _ _ _ => List.length_append.le

theorem Faithful.openFile_iff (faithful : Faithful journal) :
    (∃ reopened, openFile journal.file = .ok reopened ∧
      reopened.nextSequence = journal.nextSequence ∧
      ∀ planId, reopened.operation? planId =
        (journal.operation? planId).map stored) ↔
      journal.file.records.length < 2 ^ 64 := by
  rw [← faithful.mirrored.load_iff]
  constructor
  · intro opens
    obtain ⟨reopened, opened, sequence, trades⟩ := opens
    simp only [openFile, bind_eq_ok, pure_eq_ok] at opened
    obtain ⟨log, loaded, rfl⟩ := opened
    exact ⟨log, loaded, sequence, trades⟩
  · intro loads
    obtain ⟨log, loaded, sequence, trades⟩ := loads
    refine ⟨⟨.ofOperations log.state, log.nextSequence, log.poisoned, log.file⟩, ?_, sequence,
      trades⟩
    rw [openFile, loaded]
    rfl

end Runs

theorem trade_replay_is_memory_while_counted (steps : List JournalStep) :
    let journal := emptyTradeJournal.afterAll steps
    ((∃ reopened, openFile journal.file = .ok reopened ∧
        reopened.nextSequence = journal.nextSequence ∧
        ∀ planId, reopened.operation? planId =
          (journal.operation? planId).map stored) ↔
        journal.file.records.length < 2 ^ 64) ∧
      journal.file.records.length ≤ steps.length ∧
      journal.state.activeOperationCount =
        (journal.state.operations.values.filter active).length ∧
      (∀ strategyId : String, journal.state.unresolvedByStrategy[strategyId]? =
        (unresolvedStrategyIndex journal.state.operations)[strategyId]?) ∧
      ∀ planId operation, journal.operation? planId = some operation → ∀ later, ∃ followed,
        (journal.afterAll later).operation? planId = some followed ∧
        Evolves operation followed := by
  intro journal
  have faithful : Faithful journal := (faithful_empty.afterAll steps).1
  refine ⟨faithful.openFile_iff, ?_, faithful.indexed.counted, ?_, ?_⟩
  · exact (AppendLog.measure_foldl_le (·.file.records.length) length_records_after emptyTradeJournal
      steps).trans_eq (Nat.zero_add _)
  · have bound := length_unresolvedStrategies_le journal.state.operations.values
    have fits := faithful.indexed.fits
    rw [faithful.indexed.counted] at fits
    have recomputed := counts_empty.foldl (unresolvedStrategies journal.state.operations.values)
      (by rw [List.length_nil]; omega)
    rw [List.append_nil] at recomputed
    exact faithful.indexed.unresolved.ext recomputed
  · intro planId operation found later
    exact (faithful.afterAll later).2 planId operation found

/-! ## A file with more records than numbers -/

def writtenAt (now : Nat) : DurableEnv := ⟨some now, some now, some 100⟩

/-- A trade of 1000 units whose CEX leg waits for the DEX. -/
def unhedgedIntent : TradeIntent :=
  { hedgedIntent with mode := .dexFirst }

/-- The CEX sells more than the DEX has bought, so that the trade is halted. -/
def haltingSteps : List JournalStep := [
  .call (writtenAt 0) (.admitIntent unhedgedIntent),
  .call (writtenAt 0) (.takeCommands "plan-1"),
  .call (writtenAt 0) (.recordResult "plan-1" .dex (plainResult .filled 1000 (-100) "dex:0x01")),
  .call (writtenAt 0) (.takeCommands "plan-1"),
  .call (writtenAt 0) (.recordResult "plan-1" .cex (plainResult .filled (-1200) 130 "cex:1")),
  .call (writtenAt 0) (.takeCommands "plan-1")]

def haltedTrade : TradeOperation :=
  { prepared unhedgedIntent with
    stage := .halted
    dexDispatched := true
    cexDispatched := true
    dexResult := some (plainResult .filled 1000 (-100) "dex:0x01")
    cexResult := some (plainResult .filled (-1200) 130 "cex:1")
    blockingReason := some "dex_first_recovery_direction_flipped" }

/-- A sound journal of so many records that has the trade. -/
structure HasTrade (operation : TradeOperation) (records : Nat) (journal : TradeJournal) : Prop where
  sound : journal.poisoned = false
  stored : journal.operation? operation.planId = some operation
  counted : journal.file.records.length = records

/-- The same state of a trade may be journaled again. -/
theorem HasTrade.append (has : HasTrade op records journal) (valid : validateOperation op = .ok ())
    (checked : checkTransition op op = .ok ()) :
    wp (append (writtenAt 0).env.io op)
      (fun _ => HasTrade op (records + 1)) (fun _ => HasTrade op (records + 1))
      journal := by
  have stored : journal.state.operations.get? op.planId = some op := has.stored
  have snapshot : applySnapshot journal.state.operations op =
      .ok (journal.state.operations.put op) := by
    refine applySnapshot_eq_ok.mpr ⟨valid, ?_, rfl⟩
    rw [stored]
    exact checked
  have counted : nextActiveOperationCount journal.state.activeOperationCount (some op)
      op = .ok journal.state.activeOperationCount := by
    unfold nextActiveOperationCount
    cases isActive : op.active <;> simp [isActive]
  have applied : ∀ sequence, journal.state.apply ⟨sequence, 0, op⟩ =
      .ok ⟨journal.state.operations.put op, journal.state.activeOperationCount,
        updateUnresolvedStrategyIndex journal.state.unresolvedByStrategy (some op)
          op⟩ := by
    intro sequence
    simp only [TradeState.apply, snapshot, stored, counted]
    rfl
  have longer : ∀ record : WirePayload, (journal.file.records ++ [record]).length = records + 1 := by
    intro record
    rw [List.length_append, List.length_singleton, has.counted]
  exact wp_append_accepted has.sound valid rfl (applied _) rfl (by decide) rfl
    (fun _ => ⟨has.sound, get?_put_self _ op, longer _⟩)
    (fun _ => ⟨has.sound, get?_put_self _ op, longer _⟩)

theorem haltedTrade_taken :
    haltedTrade.takeCommands (some 0) = .ok ⟨some haltedTrade, []⟩ :=
  rfl

theorem haltedTrade_accepted :
    validateOperation haltedTrade = .ok () ∧
      checkTransition haltedTrade haltedTrade = .ok () := by
  decide +kernel

/-- A halted trade is journaled again whenever its commands are taken. -/
theorem HasTrade.halted_again (has : HasTrade haltedTrade records journal) :
    HasTrade haltedTrade (records + 1)
      (journal.after (.call (writtenAt 0) (.takeCommands "plan-1"))) := by
  obtain ⟨valid, checked⟩ := haltedTrade_accepted
  have appended := has.append valid checked
  have found : journal.operation "plan-1" = .ok haltedTrade := orError_eq_ok.mpr has.stored
  have taken : haltedTrade.takeCommands (writtenAt 0).env.now = .ok ⟨some haltedTrade, []⟩ :=
    haltedTrade_taken
  generalize haltedTrade = trade at *
  refine final_of_wp ?_
  simp only [CoordinatorCall.run, PaperTradeCoordinator.takeCommands, PaperTradeCoordinator.amend,
    wp_bind, wp_get, wp_lift, wp_pure, found, Except.ok.injEq, forall_eq', taken]
  exact ⟨⟨appended, fun _ failed => by cases failed⟩, fun _ failed => by cases failed⟩

theorem hasTrade_afterAll (n : Nat) :
    HasTrade haltedTrade (6 + n) (emptyTradeJournal.afterAll (haltingSteps ++
      List.replicate n (.call (writtenAt 0) (.takeCommands "plan-1")))) := by
  induction n with
  | zero =>
    rw [List.replicate_zero, List.append_nil]
    have halted : let journal := emptyTradeJournal.afterAll haltingSteps
        journal.poisoned = false ∧ journal.operation? "plan-1" = some haltedTrade ∧
          journal.file.records.length = 6 := by
      decide +kernel
    exact ⟨halted.1, halted.2.1, halted.2.2⟩
  | succ n ih =>
    rw [List.replicate_succ', ← List.append_assoc, afterAll, List.foldl_append]
    exact ih.halted_again

/-- A halted trade that is asked for its commands too often leaves a file that does not open. -/
theorem exhausted_trade_journal_does_not_open :
    ¬∃ reopened, openFile (emptyTradeJournal.afterAll (haltingSteps ++
      List.replicate (2 ^ 64) (.call (writtenAt 0) (.takeCommands "plan-1")))).file =
      .ok reopened := by
  intro opens
  obtain ⟨reopened, opened⟩ := opens
  have counted := (hasTrade_afterAll (2 ^ 64)).counted
  obtain ⟨sequence, fits⟩ := replay_sequence (openFile_eq_ok opened).1
  rw [counted] at sequence
  simp only at sequence fits
  omega

end PolyBot.Trade
