import PolyBot.Rebalance.Journal

/-!
# One rebalance at a time

`reserve` and the two calls that look for something to retry refuse while an operation is under way.
The other calls do not ask: a quarantined or failed operation can be taken up again beside an
operation that was reserved since.

* `Cause.put_single`: the step, from the operations before a call to those after it.
* `single_active_operation`: where a halted operation is taken up only while none is active, at
  most one is active in every journal that calls and restarts lead to.
* `quarantine_reopened_beside_a_reservation`: without that, the journal holds two.
-/

namespace PolyBot.Rebalance

open Proc RebalanceExecutionOperation RebalanceExecutionJournal

/-- At most one operation is under way. -/
def Single (operations : KeyedMap operationId) : Prop :=
  (operations.values.filter fun operation => !operation.progress.terminal).length ≤ 1

/-- Where a call would take up a failed or quarantined operation without asking, none is active. -/
def Exclusive (journal : RebalanceExecutionJournal) (call : Call) : Prop :=
  ∀ operationId current, call.asks = false → call.target? journal = some operationId →
    journal.operations.get? operationId = some current →
    (current.progress.isFailed = true ∨ current.progress.isQuarantined = true) → journal.active = []

variable {journal : RebalanceExecutionJournal} {op : RebalanceExecutionOperation}

theorem mem_active :
    op ∈ journal.active ↔
      op ∈ journal.operations.values ∧ op.progress.terminal = false := by
  simp [active]

theorem active_eq_nil_of_idle (idle : journal.activeOperation = .ok none) :
    journal.active = [] := by
  unfold activeOperation at idle
  split at idle
  · assumption
  · cases idle
  · cases idle

theorem activeOperation_of_single (single : Single journal.operations) :
    ∃ found, journal.activeOperation = .ok found := by
  change journal.active.length ≤ 1 at single
  unfold activeOperation
  split
  · exact ⟨none, rfl⟩
  · exact ⟨some _, rfl⟩
  · rename_i two
    rw [two] at single
    simp at single

theorem activeOperation_of_two (two : 1 < journal.active.length) :
    journal.activeOperation.toOption = none := by
  unfold activeOperation
  split
  · rename_i none
    simp [none] at two
  · rename_i one
    simp [one] at two
  · rfl

/-- Writing an operation keeps at most one active when no other one is. -/
theorem single_put {operations : KeyedMap operationId}
    (others : ∀ other ∈ operations.values, other.progress.terminal = false →
      other.operationId = op.operationId) : Single (operations.put op) := by
  have others' : ∀ other ∈ operations.values, (!other.progress.terminal) = true →
      other.operationId = op.operationId := fun other mem active =>
    others other mem (by simpa using active)
  unfold Single
  cases terminal : op.progress.terminal with
  | true => rw [KeyedMap.filter_values_put_eq_nil others' (by simp [terminal])]; simp
  | false => rw [KeyedMap.filter_values_put_eq_singleton others' (by simp [terminal])]; simp

variable {call : Call} {digest : FingerprintFields → B256}

/-- No other terminal operation is continued. -/
theorem Continues.halted {current : RebalanceExecutionOperation}
    (continues : Continues journal current op) (terminal : current.progress.terminal = true) :
    current.progress.isFailed = true ∨ current.progress.isQuarantined = true := by
  by_cases quarantined : current.progress.isQuarantined = true
  · exact Or.inr quarantined
  · exact validateTransition_terminal terminal (continues.steps (by simpa using quarantined))

/-- The operation that a call appends is the only one that can be active. -/
theorem Cause.put_single (cause : Cause digest journal call op) (exclusive : Exclusive journal call)
    (single : Single journal.operations) : Single (journal.operations.put op) := by
  have idle : journal.active = [] → Single (journal.operations.put op) := by
    intro none
    refine single_put fun other mem active => ?_
    have listed : other ∈ journal.active := mem_active.mpr ⟨mem, active⟩
    rw [none] at listed
    cases listed
  cases cause with
  | reserved idle' => exact idle (active_eq_nil_of_idle idle')
  | @continued _ current _ continues target asked =>
    cases asks : call.asks with
    | true => exact idle (active_eq_nil_of_idle (asked asks))
    | false =>
      cases terminal : current.progress.terminal with
      | true =>
        exact idle (exclusive _ current asks target continues.stored (continues.halted terminal))
      | false =>
        -- the operation itself is the active one
        refine single_put fun other mem active => ?_
        have here : current ∈ journal.active :=
          mem_active.mpr ⟨KeyedMap.mem_values_of_get? continues.stored, terminal⟩
        have listed : other ∈ journal.active := mem_active.mpr ⟨mem, active⟩
        obtain ⟨only, alone⟩ : ∃ only, journal.active = [only] := by
          change journal.active.length ≤ 1 at single
          exact List.length_eq_one_iff.mp (Nat.le_antisymm single (List.length_pos_of_mem here))
        rw [alone, List.mem_singleton] at listed here
        rw [listed, ← here]
        exact KeyedMap.key_of_get? continues.stored

/-- At most one operation is active in memory and in what the file can be opened to. -/
structure SingleJournal (journal : RebalanceExecutionJournal) : Prop where
  memory : Single journal.operations
  remembers : journal.poisoned = false → journal.recorded = recordedBy (snapshots journal.file)
  filed : Single (recordedBy (snapshots journal.file)).operations

theorem SingleJournal.perform {io : AppendLog.Io} (holds : SingleJournal journal)
    (exclusive : Exclusive journal call) :
    SingleJournal ((perform digest io call).final journal) := by
  refine final_of_wp (P := SingleJournal) (wp_perform holds (fun _ => holds) ?_)
  intro op cause
  have single := cause.put_single exclusive holds.memory
  have filed : journal.poisoned = false →
      recordedBy (snapshots journal.file ++ [op]) = journal.recorded.add op := by
    intro sound
    rw [recordedBy_concat, ← holds.remembers sound]
  have appended : ∀ after, journal.poisoned = false → Appended journal op after →
      SingleJournal after := by
    intro after sound appended
    refine ⟨?_, fun _ => ?_, ?_⟩
    · change Single after.recorded.operations
      rw [appended.recorded]
      exact single
    · rw [appended.recorded, appended.snapshots, filed sound]
    · rw [appended.snapshots, filed sound]
      exact single
  apply wp_append_recorded
  · exact fun _ => holds
  · intro after sound same poisoned written _
    refine ⟨?_, fun clean => ?_, ?_⟩
    · rw [same]
      exact holds.memory
    · rw [poisoned] at clean
      cases clean
    · rcases written with unchanged | kept
      · rw [unchanged]
        exact holds.filed
      · rw [kept, filed sound]
        exact single
  · exact fun after sound done _ _ _ => appended after sound done
  · exact fun after sound done _ => appended after sound done

theorem SingleJournal.openFile {reopened : RebalanceExecutionJournal}
    (holds : SingleJournal journal) (opened : openFile journal.file = .ok reopened) :
    SingleJournal reopened := by
  obtain ⟨recorded, -, -, file⟩ := openFile_eq_ok opened
  refine ⟨?_, fun _ => ?_, ?_⟩
  · change Single reopened.recorded.operations
    rw [recorded]
    exact holds.filed
  · rw [recorded, file]
  · rw [file]
    exact holds.filed

/-- In every run whose calls take up a halted operation only while none is active, at most one
operation is active, and asking for it never fails. -/
theorem single_active_operation {digest : FingerprintFields → B256}
    {journal : RebalanceExecutionJournal}
    (run : Run digest (fun journal _ call => Exclusive journal call) journal) :
    journal.active.length ≤ 1 ∧ ∃ found, journal.activeOperation = .ok found := by
  have holds : SingleJournal journal := by
    induction run with
    | fresh =>
      have none : Single (.empty : KeyedMap operationId) := by
        simp [Single]
      exact ⟨none, fun _ => rfl, none⟩
    | call _ io call exclusive ih => exact ih.perform exclusive
    | restart _ opened ih => exact ih.openFile opened
  exact ⟨holds.memory, activeOperation_of_single holds.memory⟩

/-! ## Fixed runs -/

/-- An operation is quarantined and another one reserved. -/
def reservedTwice : List Call :=
  [.reserve sampleRequest,
    .advance (sampleId 0) (.quarantined "decimal exceeds token precision"),
    .reserve sampleRequest]

theorem single_after_a_quarantine :
    (afterCalls (fun _ => 0) sampleIo reservedTwice).active.map
        operationId = [sampleId 2] ∧
      (afterCalls (fun _ => 0) sampleIo reservedTwice).active.length ≤ 1 ∧
      ∃ found, (afterCalls (fun _ => 0) sampleIo reservedTwice).activeOperation = .ok found := by
  have run : Run (fun _ => 0) (fun journal _ call => Exclusive journal call)
      (afterCalls (fun _ => 0) sampleIo reservedTwice) := by
    refine run_afterCalls
      fun before call after split operationId current asks named stored halted => ?_
    -- only the second call names an operation, and that one is under way
    rcases before with _ | ⟨first, _ | ⟨second, _ | ⟨third, rest⟩⟩⟩
    · cases split
      cases asks
    · cases split
      cases named
      have live : (afterCalls (fun _ => 0) sampleIo [.reserve sampleRequest]).operations.get?
          (sampleId 0) = some (reservation (fun _ => 0) 0 sampleRequest) := by decide +kernel
      rw [live] at stored
      cases stored
      rcases halted with failed | quarantined
      · cases failed
      · cases quarantined
    · cases split
      cases asks
    · simp [reservedTwice] at split
  exact ⟨by decide +kernel, single_active_operation run⟩

/-- An operation is reserved and quarantined, another one is reserved, and the first is reopened:
both are active and the journal can no longer say which one is. -/
theorem quarantine_reopened_beside_a_reservation :
    ∃ journal, Run (fun _ => 0) (fun _ _ _ => True) journal ∧
      journal.active.map operationId = [sampleId 0, sampleId 2] ∧
      journal.activeOperation.toOption = none := by
  have both : (afterCalls (fun _ => 0) sampleIo
      (reservedTwice ++ [.advance (sampleId 0) .intentRecorded])).active.map
        operationId = [sampleId 0, sampleId 2] := by decide +kernel
  refine ⟨_, run_afterCalls fun _ _ _ _ => trivial, both, activeOperation_of_two ?_⟩
  have counted := congrArg List.length both
  rw [List.length_map] at counted
  rw [counted]
  decide

end PolyBot.Rebalance
