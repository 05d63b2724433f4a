import PolyBot.Trade.Moves

/-!
# Sessions

A session is the coordinator over its journal across restarts, with the commands it has emitted for
one trade.  Its calls come in any order, at any time and for any trade; each append may fail, with
its record lost, torn or whole in the file, and the journal may be reopened at any point.

* `Keeps`: an invariant of the trade in memory, and that the file has the trade as the memory has it
  or is one move ahead of a poisoned journal.
* `SessionRun.keeps`: an invariant that the moves of a trade preserve holds in every state of every
  run.
-/

namespace PolyBot.Trade

open AppendLog Proc PaperTradeCoordinator TradeJournal

inductive CoordinatorCall
  | admitIntent (intent : TradeIntent)
  | takeCommands (planId : String)
  | recordResult (planId : String) (role : LegRole) (result : LegResult)
  | reconcileUnknown (planId : String) (role : LegRole) (result : LegResult)
  | selectPrimaryCexLimitPrice (planId : String) (limitPrice : Decimal)
  | recordOperatorRecovery (planId : String) (dexResult recoveryResult : LegResult)
      (evidence : OperatorRecoveryEvidence)

/-- The call on a journal, with the commands it returns. -/
def CoordinatorCall.run (env : Env) :
    CoordinatorCall → TradeProc (List CoordinatorCommand)
  | admitIntent intent => do
    PaperTradeCoordinator.admitIntent env intent
    return []
  | takeCommands planId => PaperTradeCoordinator.takeCommands env planId
  | recordResult planId role result => do
    PaperTradeCoordinator.recordResult env planId role result
    return []
  | reconcileUnknown planId role result => do
    PaperTradeCoordinator.reconcileUnknown env planId role result
    return []
  | selectPrimaryCexLimitPrice planId limitPrice => do
    PaperTradeCoordinator.selectPrimaryCexLimitPrice env planId limitPrice
    return []
  | recordOperatorRecovery planId dexResult recoveryResult evidence => do
    PaperTradeCoordinator.recordOperatorRecovery env planId dexResult recoveryResult evidence
    return []

/-- A command that a call returned, with the trade as it was before. -/
structure Emission where
  before : TradeOperation
  command : CoordinatorCommand

/-- The journal, the commands emitted so far for the trade, oldest first, and whether no call has
failed with its record in the file. -/
structure Session where
  journal : TradeJournal
  emitted : List Emission
  intact : Bool

/-- The commands that a move from `before` emits. -/
def emissions (before : Option TradeOperation) (commands : List CoordinatorCommand) : List Emission :=
  match before with
  | some operation => commands.map (Emission.mk operation)
  | none => []

@[simp]
theorem emissions_nil (before : Option TradeOperation) : emissions before [] = [] := by
  cases before <;> rfl

/-- The commands of a call that are the trade's. -/
def CoordinatorCall.emitted (planId : String) (journal : TradeJournal) (call : CoordinatorCall)
    (commands : List CoordinatorCommand) : List Emission :=
  match call with
  | takeCommands other => if other = planId then emissions (journal.operation? planId) commands else []
  | _ => []

def Session.after (planId : String) (env : Env) (call : CoordinatorCall) (session : Session) :
    Session :=
  match (call.run env).exec session.journal with
  | (.ok commands, journal) =>
    { session with
      journal := journal
      emitted := session.emitted ++ call.emitted planId session.journal commands }
  | (.error _, journal) =>
    { session with
      journal := journal
      intact := session.intact && decide (journal.file.records = session.journal.file.records) }

inductive SessionStep (planId : String) (session : Session) : Session → Prop
  | call (env : Env) (call : CoordinatorCall) : SessionStep planId session (session.after planId env call)
  | reopen {journal : TradeJournal}
      (opened : openFile session.journal.file = .ok journal) :
      SessionStep planId session { session with journal := journal }

def SessionRun (planId : String) : Session → Session → Prop :=
  Relation.ReflTransGen (SessionStep planId)

/-! ## Invariants -/

/-- The admission of a trade, or a move of it. -/
inductive Progress : Option TradeOperation → List CoordinatorCommand → TradeOperation → Prop
  | admitted (intent : TradeIntent) : Progress none [] (.prepared intent)
  | moved {operation next : TradeOperation} {commands : List CoordinatorCommand}
      (move : Move operation commands next) : Progress (some operation) commands next

/-- A property of a trade and of the commands emitted for it. -/
abbrev TradeInvariant := Bool → List Emission → Option TradeOperation → Prop

/-- What is known of a change of a trade besides that it is a move. -/
abbrev TradeChange := Option TradeOperation → TradeOperation → Prop

def anyChange : TradeChange := fun _ _ => True

/-- Progress by known changes, forgotten commands and the way through the file keep the property. -/
structure Inductive (planId : String) (J : TradeChange) (I : TradeInvariant) : Prop where
  progress : ∀ {intact emitted before commands next}, I intact emitted before →
    Progress before commands next → J before next → validateOperation next = .ok () →
    next.planId = planId → I intact (emitted ++ emissions before commands) (some next)
  forget : ∀ {intact emitted more now}, I intact (emitted ++ more) now → I false emitted now
  stored : ∀ {intact emitted operation}, I intact emitted (some operation) →
    I intact emitted (some operation.stored)

variable {I : TradeInvariant} {J : TradeChange} {emitted : List Emission} {intact : Bool}
  {planId : String}

theorem Inductive.weaken (invariant : Inductive planId J I) {now : Option TradeOperation}
    (holds : I intact emitted now) : I false emitted now := by
  rw [← List.append_nil emitted] at holds
  exact invariant.forget holds

/-- The states a file can be opened to: the trade as it is in memory, or one move further. -/
def FileFollows (planId : String) (J : TradeChange) (intact : Bool) (journal : TradeJournal)
    (operations : Operations) : Prop :=
  operations.get? planId = (journal.operation? planId).map TradeOperation.stored ∨
    journal.poisoned = true ∧ intact = false ∧ ∃ commands next,
      Progress (journal.operation? planId) commands next ∧ J (journal.operation? planId) next ∧
      validateOperation next = .ok () ∧ next.planId = planId ∧
      operations.get? planId = some next.stored

/-- The invariant in memory, and the file behind it. -/
structure KeepsAt (planId : String) (J : TradeChange) (I : TradeInvariant) (intact : Bool)
    (emitted : List Emission) (journal : TradeJournal) : Prop where
  memory : I intact emitted (journal.operation? planId)
  file : Recovers openFormat (FileFollows planId J intact journal) journal.file

def Keeps (planId : String) (I : TradeInvariant) (session : Session) : Prop :=
  KeepsAt planId anyChange I session.intact session.emitted session.journal

/-- The invariant after a call on `journal` that has failed. -/
def KeepsFailed (planId : String) (J : TradeChange) (I : TradeInvariant) (intact : Bool)
    (emitted : List Emission) (journal after : TradeJournal) : Prop :=
  KeepsAt planId J I (intact && decide (after.file.records = journal.file.records)) emitted after

/-- A call that fails before it writes. -/
theorem KeepsAt.failed {journal : TradeJournal} (keeps : KeepsAt planId J I intact emitted journal) :
    KeepsFailed planId J I intact emitted journal journal := by
  simpa [KeepsFailed] using keeps

section Append

variable {planId : String} {J : TradeChange} {I : TradeInvariant} {intact : Bool}
  {emitted : List Emission} {journal : TradeJournal} {op : TradeOperation}
  {commands : List CoordinatorCommand} {sequence now : Nat} {next : TradeState}

/-- The trade after a record has been taken into the memory. -/
theorem operation?_of_apply (planId : String)
    (applied : journal.state.apply ⟨sequence, now, op⟩ = .ok next) (after : TradeJournal)
    (isNext : after.state = next) :
    validateOperation op = .ok () ∧ after.operation? planId =
      if op.planId = planId then some op else journal.operation? planId := by
  obtain ⟨valid, _, written⟩ := applySnapshot_eq_ok.mp (TradeState.apply_operations applied)
  rw [operation?, isNext, written]
  exact ⟨valid, KeyedMap.get?_put ..⟩

variable {operations : Operations} {after : TradeJournal}

/-- The trade that a file is opened to once the record of `operation` is in it. -/
theorem get?_of_written (planId : String) {written : Operations}
    (applied : openFormat.apply operations (WirePayload.stored ⟨sequence, now, op⟩) =
      .ok written) :
    written.get? planId =
      if op.planId = planId then some op.stored else operations.get? planId := by
  obtain ⟨_, _, rfl⟩ := applySnapshot_eq_ok.mp applied
  exact KeyedMap.get?_put ..

/-- Before an append the file has the trade as the memory has it. -/
theorem FileFollows.of_sound (follows : FileFollows planId J intact journal operations)
    (sound : journal.poisoned = false) :
    operations.get? planId = (journal.operation? planId).map TradeOperation.stored := by
  rcases follows with follows | ⟨poisoned, _⟩
  · exact follows
  · rw [sound] at poisoned
    cases poisoned

/-- A record that is in the memory and in the file. -/
theorem follows_appended
    (follows : Recovers openFormat (FileFollows planId J intact journal) journal.file)
    (sound : journal.poisoned = false)
    (applied : journal.state.apply ⟨sequence, now, op⟩ = .ok next) (isNext : after.state = next)
    (isFile : after.file = journal.file.after (WirePayload.stored ⟨sequence, now, op⟩) .synced) :
    validateOperation op = .ok () ∧ (after.operation? planId =
        if op.planId = planId then some op else journal.operation? planId) ∧
      ∀ nowIntact, Recovers openFormat (FileFollows planId J nowIntact after) after.file := by
  obtain ⟨valid, memory⟩ := operation?_of_apply planId applied after isNext
  refine ⟨valid, memory, fun _ => ?_⟩
  rw [isFile]
  refine follows.after .synced nofun fun _ operations written before applied => ?_
  left
  rw [get?_of_written planId applied, memory]
  split
  · rfl
  · exact before.of_sound sound

variable (invariant : Inductive planId J I) (keeps : KeepsAt planId J I intact emitted journal)
  (progress : op.planId = planId → Progress (journal.operation? planId) commands op)
  (change : op.planId = planId → J (journal.operation? planId) op)

include invariant keeps progress change

/-- A record that the disk did not take. -/
theorem keeps_spoiled (sound : journal.poisoned = false)
    (valid : validateOperation op = .ok ()) {write : Write}
    (failed : write ≠ .synced)
    (isAfter : after = spoiled appendFormat journal ⟨sequence, now, op⟩ write) :
    KeepsFailed planId J I intact emitted journal after := by
  unfold KeepsFailed
  have memory : after.operation? planId = journal.operation? planId := by
    rw [isAfter]
    rfl
  have unchanged : after.file.records = journal.file.records →
      Recovers openFormat (FileFollows planId J intact after) after.file := by
    intro same acc replayed
    rw [same] at replayed
    left
    rw [memory]
    exact (keeps.file acc replayed).of_sound sound
  by_cases kept : write = .kept
  · -- the file is one record ahead of the memory
    have longer : after.file.records ≠ journal.file.records := by
      rw [isAfter, kept]
      simp [spoiled, File.after]
    have poisoned : after.poisoned = true := by
      rw [isAfter]
      rfl
    simp only [longer, decide_false, Bool.and_false]
    constructor
    · rw [memory]
      exact invariant.weaken keeps.memory
    · rw [isAfter, kept]
      refine keeps.file.after .kept nofun fun _ operations written before applied => ?_
      rw [← kept, ← isAfter]
      have got := get?_of_written planId applied
      by_cases own : op.planId = planId
      · right
        rw [if_pos own] at got
        refine ⟨poisoned, rfl, commands, op, ?_, ?_, valid, own, got⟩
        · rw [memory]
          exact progress own
        · rw [memory]
          exact change own
      · left
        rw [got, if_neg own, memory]
        exact before.of_sound sound
  · have same : after.file.records = journal.file.records := by
      rw [isAfter]
      cases write with
      | synced => exact absurd rfl failed
      | kept => exact absurd rfl kept
      | lost | torn => rfl
    simp only [same, decide_true, Bool.and_true]
    refine ⟨?_, unchanged same⟩
    rw [memory]
    exact keeps.memory

theorem append_keeps (io : Io) :
    wp (append io op)
      (fun _ after => KeepsAt planId J I intact (emitted ++
        if op.planId = planId then emissions (journal.operation? planId) commands else []) after)
      (fun _ after => KeepsFailed planId J I intact emitted journal after) journal := by
  have advanced : op.planId = planId → validateOperation op = .ok () →
      I intact (emitted ++ emissions (journal.operation? planId) commands) (some op) :=
    fun own valid => invariant.progress keeps.memory (progress own) (change own) valid own
  apply wp_append
  case refused => exact fun _ => keeps.failed
  case unwritten =>
    intro now next sound _ applied failed
    obtain ⟨valid, _⟩ := operation?_of_apply planId applied { journal with state := next } rfl
    exact keeps_spoiled invariant keeps progress change sound valid failed rfl
  case exhausted =>
    intro now next sound _ applied _
    generalize isAfter : ({ appended appendFormat journal ⟨journal.nextSequence, now, op⟩ next
      with nextSequence := journal.nextSequence } : TradeJournal) = after
    have isNext : after.state = next := by rw [← isAfter]; rfl
    obtain ⟨valid, memory, file⟩ := follows_appended keeps.file sound applied isNext (isAfter ▸ rfl)
    have longer : after.file.records ≠ journal.file.records := by
      rw [← isAfter]
      simp [appended, File.after]
    simp only [KeepsFailed, longer, decide_false, Bool.and_false]
    constructor
    · rw [memory]
      split
      · rename_i own
        exact invariant.forget (advanced own valid)
      · exact invariant.weaken keeps.memory
    · exact file false
  case done =>
    intro now next sound _ _ applied _
    obtain ⟨valid, memory, file⟩ := follows_appended keeps.file sound applied
      (rfl : (appended appendFormat journal ⟨journal.nextSequence, now, op⟩ next).state = _) rfl
    constructor
    · rw [memory]
      split
      · rename_i own
        exact advanced own valid
      · simpa using keeps.memory
    · exact file intact

end Append

/-- What a call on `journal` journals, when it gets that far. -/
def CoordinatorCall.MayJournal (env : Env) (journal : TradeJournal) (next : TradeOperation) :
    CoordinatorCall → Prop
  | admitIntent intent => next = .prepared intent
  | takeCommands planId => ∃ operation decided, journal.operation? planId = some operation ∧
      operation.takeCommands env.now = .ok decided ∧ decided.next = some next
  | recordResult planId role result => ∃ operation, journal.operation? planId = some operation ∧
      operation.recordResult env.now role result = .ok next
  | reconcileUnknown planId role result => ∃ operation, journal.operation? planId = some operation ∧
      operation.reconcileUnknown env.now role result = .ok next
  | selectPrimaryCexLimitPrice planId limitPrice => ∃ operation,
      journal.operation? planId = some operation ∧
      operation.selectPrimaryCexLimitPrice limitPrice = .ok (some next)
  | recordOperatorRecovery planId dexResult recoveryResult evidence => ∃ operation,
      journal.operation? planId = some operation ∧
      operation.recordOperatorRecovery dexResult recoveryResult evidence = .ok next

/-- What a call writes on `journal`, and the commands that it then returns. -/
structure CoordinatorCall.Journals (env : Env) (journal : TradeJournal) (call : CoordinatorCall)
    (commands : List CoordinatorCommand) (next : TradeOperation) : Prop where
  may : call.MayJournal env journal next
  progress : Progress (journal.operation? next.planId) commands next
  emits : ∀ planId, call.emitted planId journal commands =
    if next.planId = planId then emissions (journal.operation? planId) commands else []

section Calls

variable {journal : TradeJournal} {E : String → TradeJournal → Prop} {io : Io} {other : String}
  {Q : TradeJournal → Prop} {env : Env}

/-- An amended trade is one append of a move, or nothing at all. -/
theorem wp_amend {decision : TradeOperation → Except String Decision}
    {Q : List CoordinatorCommand → TradeJournal → Prop}
    (legal : ∀ op decided, decision op = .ok decided → decided.Legal op)
    (refused : ∀ e, E e journal) (idle : Q [] journal)
    (appends : ∀ op decided next, journal.operation? other = some op →
      decision op = .ok decided → decided.next = some next → next.planId = other →
      Progress (journal.operation? other) decided.commands next →
      wp (append io next) (fun _ => Q decided.commands) E journal) :
    wp (amend io other decision) Q E journal := by
  simp only [amend, wp_bind, wp_get, wp_lift, wp_pure]
  refine ⟨fun op found => ⟨fun decided isDecided => ?_, fun _ _ => refused _⟩,
    fun _ _ => refused _⟩
  have stored : journal.operation? other = some op := orError_eq_ok.mp found
  have isLegal := legal op decided isDecided
  unfold Decision.Legal at isLegal
  cases isNext : decided.next with
  | none =>
    simp only [isNext] at isLegal
    simpa [journalDecision, isLegal] using idle
  | some next =>
    simp only [isNext] at isLegal
    have nextPlan : next.planId = other := by
      have planIs : op.planId = other := KeyedMap.key_of_get? stored
      rw [← planIs]
      exact congrArg TradeIntent.planId isLegal.intent_eq
    have progress : Progress (journal.operation? other) decided.commands next := by
      rw [stored]
      exact .moved isLegal
    exact appends op decided next stored isDecided isNext nextPlan progress

theorem wp_amendQuietly {change : TradeOperation → Except String (Option TradeOperation)}
    (moves : ∀ op next, change op = .ok (some next) → Move op [] next) (refused : ∀ e, E e journal)
    (idle : Q journal) (appends : ∀ op next, journal.operation? other = some op →
      change op = .ok (some next) → Progress (journal.operation? next.planId) [] next →
      wp (append io next) (fun _ => Q) E journal) :
    wp (amendQuietly io other change) (fun _ => Q) E journal := by
  unfold amendQuietly
  rw [wp_bind]
  refine wp_amend ?_ refused idle ?_
  · intro op decided made
    simp only [bind_eq_ok, pure_eq_ok] at made
    obtain ⟨next, changed, rfl⟩ := made
    cases next with
    | none => rfl
    | some next => exact moves op next changed
  · intro op decided next found made isNext nextPlan progress
    simp only [bind_eq_ok, pure_eq_ok] at made
    obtain ⟨_, changed, rfl⟩ := made
    cases isNext
    rw [← nextPlan] at progress
    exact appends op next found changed progress

/-- An amendment that always changes its trade. -/
theorem wp_amendQuietly_some {change : TradeOperation → Except String TradeOperation}
    (moves : ∀ {op next}, change op = .ok next → Move op [] next) (refused : ∀ e, E e journal)
    (idle : Q journal)
    (appends : ∀ op next, journal.operation? other = some op → change op = .ok next →
      Progress (journal.operation? next.planId) [] next →
      wp (append io next) (fun _ => Q) E journal) :
    wp (amendQuietly io other fun op => some <$> change op) (fun _ => Q) E
      journal := by
  have changed : ∀ {op next}, some <$> change op = .ok (some next) → change op = .ok next := by
    intro op next made
    obtain ⟨_, changed, isNext⟩ := map_eq_ok.mp made
    cases isNext
    exact changed
  refine wp_amendQuietly (fun op next made => moves (changed made)) refused idle ?_
  intro op next found made progress
  exact appends op next found (changed made) progress

theorem wp_admitIntent {intent : TradeIntent} (refused : ∀ e, E e journal)
    (appends : Progress (journal.operation? intent.planId) [] (.prepared intent) →
      wp (append env.io (.prepared intent)) (fun _ => Q) E journal) :
    wp (admitIntent env intent) (fun _ => Q) E journal := by
  simp only [admitIntent, recordIntent, wp_bind, wp_get, wp_lift,
    wp_ensure]
  refine ⟨fun _ _ => ⟨fun _ => ⟨fun _ => ⟨fun fresh => ?_, fun _ => refused _⟩,
    fun _ => refused _⟩, fun _ => refused _⟩, fun _ _ => refused _⟩
  refine appends ?_
  rw [fresh]
  exact .admitted intent

/-- Every call is one append of what it may journal, or nothing at all. -/
theorem wp_call {call : CoordinatorCall} {Q : List CoordinatorCommand → TradeJournal → Prop}
    (refused : ∀ e, E e journal) (idle : Q [] journal)
    (appends : ∀ commands next, call.Journals env journal commands next →
      wp (append env.io next) (fun _ => Q commands) E journal) :
    wp (call.run env) Q E journal := by
  cases call with
  | takeCommands other =>
    refine wp_amend (fun _ _ => takeCommands_legal) refused idle ?_
    intro op decided next found made isNext nextPlan progress
    subst nextPlan
    exact appends _ next ⟨⟨op, decided, found, made, isNext⟩, progress, fun _ => rfl⟩
  | admitIntent intent =>
    simp only [CoordinatorCall.run, wp_bind, wp_pure]
    exact wp_admitIntent refused fun progress =>
      appends [] _ ⟨rfl, progress, by simp [CoordinatorCall.emitted]⟩
  | recordResult other role result =>
    simp only [CoordinatorCall.run, PaperTradeCoordinator.recordResult, wp_bind, wp_lift, wp_pure]
    refine ⟨fun _ _ => wp_amendQuietly_some recordResult_move refused idle ?_, fun _ _ => refused _⟩
    intro op next found recorded progress
    exact appends [] next ⟨⟨op, found, recorded⟩, progress, by simp [CoordinatorCall.emitted]⟩
  | reconcileUnknown other role result =>
    simp only [CoordinatorCall.run, PaperTradeCoordinator.reconcileUnknown, wp_bind, wp_lift,
      wp_ensure, wp_pure]
    refine ⟨fun _ _ => ⟨fun proven => wp_amendQuietly_some (reconcileUnknown_move proven) refused
      idle ?_, fun _ => refused _⟩, fun _ _ => refused _⟩
    intro op next found reconciled progress
    exact appends [] next ⟨⟨op, found, reconciled⟩, progress, by simp [CoordinatorCall.emitted]⟩
  | selectPrimaryCexLimitPrice other limitPrice =>
    simp only [CoordinatorCall.run, PaperTradeCoordinator.selectPrimaryCexLimitPrice, wp_bind,
      wp_ensure, wp_pure]
    refine ⟨fun _ => wp_amendQuietly (fun _ _ => selectPrimaryCexLimitPrice_move) refused idle ?_,
      fun _ => refused _⟩
    intro op next found selected progress
    exact appends [] next ⟨⟨op, found, selected⟩, progress, by simp [CoordinatorCall.emitted]⟩
  | recordOperatorRecovery other dexResult recoveryResult evidence =>
    simp only [CoordinatorCall.run, PaperTradeCoordinator.recordOperatorRecovery, wp_bind, wp_lift,
      wp_pure]
    refine ⟨fun _ _ => wp_amendQuietly_some recordOperatorRecovery_move refused idle ?_,
      fun _ _ => refused _⟩
    intro op next found recovered progress
    exact appends [] next ⟨⟨op, found, recovered⟩, progress, by simp [CoordinatorCall.emitted]⟩

/-- A call keeps the invariant at both of its exits. -/
theorem call_keeps {planId : String} {J : TradeChange} {I : TradeInvariant} {intact : Bool}
    {emitted : List Emission} (invariant : Inductive planId J I)
    (keeps : KeepsAt planId J I intact emitted journal) (env : Env) (call : CoordinatorCall)
    (known : ∀ next, call.MayJournal env journal next → next.planId = planId →
      J (journal.operation? planId) next) :
    wp (call.run env)
      (fun commands after =>
        KeepsAt planId J I intact (emitted ++ call.emitted planId journal commands) after)
      (fun _ after => KeepsFailed planId J I intact emitted journal after) journal := by
  refine wp_call (fun _ => keeps.failed) ?_ ?_
  · have silent : call.emitted planId journal [] = [] := by
      cases call <;> simp [CoordinatorCall.emitted]
    rwa [silent, List.append_nil]
  · intro commands next journals
    rw [journals.emits planId]
    refine append_keeps invariant keeps ?_ (known next journals.may) env.io
    intro own
    rw [← own]
    exact journals.progress

end Calls

/-! ## Runs -/

section Runs

variable {planId : String} {J : TradeChange} {I : TradeInvariant} {session next : Session}

theorem Keeps.after (invariant : Inductive planId anyChange I) (keeps : Keeps planId I session)
    (env : Env) (call : CoordinatorCall) : Keeps planId I (session.after planId env call) := by
  have kept := call_keeps invariant keeps env call fun _ _ _ => trivial
  unfold wp at kept
  unfold Session.after Keeps
  split at kept <;> simp_all [KeepsFailed]

/-- A reopened journal has the trade as the memory had it, or as a call that failed had left it. -/
theorem KeepsAt.reopen (invariant : Inductive planId J I) {intact : Bool} {emitted : List Emission}
    {before journal : TradeJournal} (keeps : KeepsAt planId J I intact emitted before)
    (opened : openFile before.file = .ok journal) :
    KeepsAt planId J I intact emitted journal := by
  obtain ⟨replayed, _, sameFile⟩ := openFile_eq_ok opened
  have holds : I intact emitted (journal.operation? planId) ∧
      journal.operation? planId = (journal.operation? planId).map TradeOperation.stored := by
    rcases keeps.file _ replayed with
      same | ⟨_, broken, commands, moved, progress, change, valid, own, ahead⟩
    · have isStored : journal.operation? planId =
        (before.operation? planId).map TradeOperation.stored := same
      have memory := keeps.memory
      rw [isStored]
      generalize before.operation? planId = found at memory
      cases found with
      | none => exact ⟨memory, rfl⟩
      | some op =>
        exact ⟨invariant.stored memory, by simp only [Option.map_some, TradeOperation.stored_stored]⟩
    · have isAhead : journal.operation? planId = some moved.stored := ahead
      have advanced := invariant.progress keeps.memory progress change valid own
      rw [isAhead, broken]
      exact ⟨invariant.stored (invariant.forget advanced),
        by rw [Option.map_some, TradeOperation.stored_stored]⟩
  refine ⟨holds.1, fun acc replayedAgain => Or.inl ?_⟩
  rw [sameFile, replayed] at replayedAgain
  cases replayedAgain
  exact holds.2

theorem SessionRun.keeps (invariant : Inductive planId anyChange I)
    (run : SessionRun planId session next) (keeps : Keeps planId I session) :
    Keeps planId I next := by
  induction run with
  | refl => exact keeps
  | tail _ step ih =>
    cases step with
    | call env call => exact ih.after invariant env call
    | reopen opened => exact KeepsAt.reopen invariant ih opened

end Runs

end PolyBot.Trade
