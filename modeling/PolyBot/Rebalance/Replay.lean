import PolyBot.Rebalance.Journal

/-!
# Opening the rebalance journal again

The file is opened to what was in memory when the last record was written.  What is noted after the
write can fail, and then the file and the memory have parted: the reopenings of an operation are
counted in a `u8`, and the one that does not fit is in the file before it is counted.

* `noteStep_returns`: with room in the counts, a step is noted without failing.
* `Replays.append`, `replay_is_memory`: one append, and every run in which there is room.
* `reopened_too_often`: the run in which there is none.
-/

namespace PolyBot.Rebalance

open Proc Std

/-- The reopenings of an operation can still be counted. -/
def CountersLeft (notes : QuarantineNotes) (operationId : String) : Prop :=
  notes.quarantineReopenCounts.getD operationId 0 < 255 ∧
    notes.travelRuleOwnershipReopenCounts.getD operationId 0 < 255 ∧
    notes.unindexedMasterTransferReopenCounts.getD operationId 0 < 255

variable {operationId : String} {notes : QuarantineNotes} {journal : RebalanceExecutionJournal}
  {op : RebalanceExecutionOperation} {operations : KeyedMap RebalanceExecutionOperation.operationId}
  {E : String → RebalanceExecutionJournal → Prop} {count : Nat} {counts : TreeMap String Nat}
  {error : String} {previous : Option RebalanceExecutionOperation}
  {Q : Unit → RebalanceExecutionJournal → Prop} {noted : QuarantineNotes} {now : Nat}
  {io : AppendLog.Io} {digest : FingerprintFields → B256}

theorem countReopen_of_lt (left : counts.getD operationId 0 < 255) :
    countReopen counts operationId error =
      .ok (counts.insert operationId (counts.getD operationId 0 + 1)) := by
  have fits : checkedAdd 8 (counts.getD operationId 0) 1 =
      some (counts.getD operationId 0 + 1) := checkedAdd_eq_some.mpr ⟨by omega, rfl⟩
  rw [countReopen, fits]
  rfl

theorem countReopen_of_full (full : counts.getD operationId 0 = 255) :
    countReopen counts operationId error = .error error := by
  have none : checkedAdd 8 (counts.getD operationId 0) 1 = none :=
    checkedAdd_eq_none.mpr (by omega)
  rw [countReopen, none]
  rfl

/-- Only what leaves a terminal progress is counted. -/
theorem noteStep_returns {next : RebalanceExecutionProgress}
    (left : ∀ op, previous = some op → op.progress.terminal = true →
      CountersLeft notes operationId) :
    ∃ noted, (noteStep operationId previous next).exec notes = (.ok (), noted) := by
  suffices returns : wp (noteStep operationId previous next) (fun _ _ => True) (fun _ _ => False)
      notes by
    obtain ⟨⟨⟩, noted, ran⟩ := exists_returned_of_wp returns
    exact ⟨noted, ran⟩
  cases previous with
  | none => exact trivial
  | some op =>
    simp only [noteStep, noteProgress, wp_bind, wp_ite, wp_modify, wp_get, wp_lift, wp_set, wp_pure]
    cases terminal : op.progress.terminal with
    | true =>
      obtain ⟨quarantines, ownership, transfers⟩ := left op rfl terminal
      simp [countReopen_of_lt quarantines, countReopen_of_lt ownership,
        countReopen_of_lt transfers]
    | false =>
      have unheld := isQuarantined_of_active terminal
      have unfailed := retryableTravelRuleOwnershipReopen_of_active terminal next
      have untransferred := retryableUnindexedMasterTransferReopen_of_active terminal next
      simp [unheld, unfailed, untransferred]

/-! ## One append -/

/-- The file is opened to what is in memory. -/
def Replays (journal : RebalanceExecutionJournal) : Prop :=
  openFile journal.file = .ok journal

theorem openFile_eq_ok_iff {file : AppendLog.File WirePayload} :
    openFile file = .ok journal ↔ replay file.records = .ok journal.toMemory ∧ file.torn = false ∧
      journal.poisoned = false ∧ journal.file = file := by
  simp only [openFile, bind_eq_ok, require_eq_ok, pure_eq_ok]
  constructor
  · intro opened
    obtain ⟨memory, replayed, -, whole, rfl⟩ := opened
    exact ⟨replayed, whole, rfl, rfl⟩
  · intro opened
    obtain ⟨replayed, whole, sound, rfl⟩ := opened
    refine ⟨journal.toMemory, replayed, (), whole, ?_⟩
    cases journal
    simp only at sound
    rw [sound]

theorem replay_concat {records : List WirePayload} {payload : WirePayload} {memory : Memory}
    (replayed : replay records = .ok memory) :
    replay (records ++ [payload]) = loadStep memory payload := by
  unfold replay at replayed ⊢
  rw [List.foldlM_append, replayed, ok_bind, List.foldlM_cons]
  cases loadStep memory payload <;> rfl

/-- A snapshot that is accepted live is accepted when it is read back. -/
theorem applySnapshot_replay {next : KeyedMap RebalanceExecutionOperation.operationId}
    (applied : applySnapshot operations op .liveAppend = .ok next) :
    applySnapshot operations op .journalReplay = .ok next := by
  unfold applySnapshot at applied ⊢
  rw [bind_eq_ok] at applied ⊢
  obtain ⟨⟨⟩, valid, applied⟩ := applied
  refine ⟨(), valid, ?_⟩
  split at applied
  · simp only [bind_eq_ok] at applied ⊢
    obtain ⟨⟨⟩, same, ⟨⟩, step, returned⟩ := applied
    exact ⟨(), same, (), validateTransition_replay step, returned⟩
  · exact applied

/-- The bookkeeping after a write, where it does not fail. -/
theorem wp_commit (ran : (noteStep op.operationId previous op.progress).exec journal.notes =
      (.ok (), noted)) (room : journal.nextSequence + 1 < 2 ^ 64) (done : Q () { journal with
      notes := noted
      operationStartedAtUnixMs :=
        journal.operationStartedAtUnixMs.insertIfNew op.operationId now
      nextSequence := journal.nextSequence + 1 }) : wp (commit op previous now) Q E journal := by
  have fits : checkedAdd 64 journal.nextSequence 1 = some (journal.nextSequence + 1) :=
    checkedAdd_eq_some.mpr ⟨room, rfl⟩
  rw [commit, wp_bind, wp_zoom]
  refine wp_of_exec ran ?_
  simp only [wp_bind, wp_modify, wp_get, wp_orFail, wp_set, fits, Option.some.injEq, forall_eq',
    reduceCtorEq, false_implies, and_true]
  exact done

/-- The record that was written is read back by the steps that were taken live. -/
theorem Replays.committed (replays : Replays journal)
    (applied : applySnapshot journal.operations op .liveAppend = .ok operations)
    (ran : (noteStep op.operationId (journal.operations.get? op.operationId)
      op.progress).exec journal.notes = (.ok (), noted)) (room : journal.nextSequence + 1 < 2 ^ 64) :
    Replays { journal.written op now .synced with
      operations := operations
      notes := noted
      operationStartedAtUnixMs :=
        journal.operationStartedAtUnixMs.insertIfNew op.operationId now
      nextSequence := journal.nextSequence + 1 } := by
  obtain ⟨replayed, whole, sound, -⟩ := openFile_eq_ok_iff.mp replays
  have fits : checkedAdd 64 journal.nextSequence 1 = some (journal.nextSequence + 1) :=
    checkedAdd_eq_some.mpr ⟨room, rfl⟩
  refine openFile_eq_ok_iff.mpr ⟨(replay_concat replayed).trans ?_, whole, sound, rfl⟩
  simp only [loadStep, ran, applySnapshot_replay applied, fits, orError, require_of, ok_bind]
  rfl

/-- With room in the counts and a sequence number left, an append whose write is synced is refused
without effect or leaves a file that is opened to the memory it leaves. -/
theorem Replays.append (replays : Replays journal) (synced : io.write = .synced)
    (room : journal.nextSequence + 1 < 2 ^ 64)
    (left : ∀ current, journal.operations.get? op.operationId = some current →
      current.progress.terminal = true → CountersLeft journal.notes op.operationId) :
    wp (append io op) (fun _ => Replays) (fun _ after => after = journal) journal := by
  obtain ⟨noted, ran⟩ := @noteStep_returns op.operationId journal.notes
    (journal.operations.get? op.operationId) op.progress left
  refine wp_append (fun _ => rfl) (fun _ _ _ _ failed => absurd synced failed) ?_
  intro now operations _ applied _
  exact wp_commit ran room (replays.committed applied ran room)

/-! ## Runs -/

/-- The write of a call is synced, there is a sequence number left for its record, and where it names
a terminal operation that can go on, with the call's own progress or another, there is room in the
counts of that operation. -/
structure Bounded (digest : FingerprintFields → B256) (journal : RebalanceExecutionJournal)
    (io : AppendLog.Io) (call : Call) : Prop where
  synced : io.write = .synced
  room : journal.nextSequence < u64Max
  left : ∀ operation current, Cause digest journal call operation →
    journal.operations.get? operation.operationId = some current →
    current.progress.terminal = true → CountersLeft journal.notes operation.operationId

theorem Replays.perform {call : Call} (replays : Replays journal)
    (bounded : Bounded digest journal io call) :
    wp (perform digest io call) (fun _ => Replays) (fun _ after => after = journal) journal := by
  refine wp_perform replays (fun _ => rfl) fun op cause => ?_
  have room : journal.nextSequence + 1 < 2 ^ 64 := by
    have := bounded.room
    unfold u64Max at this
    omega
  exact replays.append bounded.synced room fun current => bounded.left op current cause

theorem Replays.of_run (run : Run digest (Bounded digest) journal) : Replays journal := by
  induction run with
  | fresh => rfl
  | call _ io call bounded ih =>
    refine final_of_wp (wp_mono (ih.perform bounded) (fun _ _ replays => replays) ?_)
    intro _ after same
    rw [same]
    exact ih
  | restart _ opened ih =>
    cases Except.ok.inj (ih.symm.trans opened)
    exact ih

/-- In every run that has room to count, the file is opened to exactly what is in memory, and a call
that is rejected changes neither. -/
theorem rebalance_replay_is_memory {digest : FingerprintFields → B256}
    {journal : RebalanceExecutionJournal} (run : Run digest (Bounded digest) journal) :
    openFile journal.file = .ok journal ∧
      ∀ io call error, Bounded digest journal io call →
        ((perform digest io call).exec journal).1 = .error error →
        (perform digest io call).final journal = journal := by
  have replays := Replays.of_run run
  refine ⟨replays, fun io call error bounded rejected => ?_⟩
  have step := replays.perform bounded
  unfold wp at step
  unfold final
  split at step
  · rename_i returned _ ran
    rw [ran] at rejected
    cases rejected
  · rename_i ran
    rw [ran]
    exact step

/-- No reopening was counted. -/
def Uncounted (notes : QuarantineNotes) : Prop :=
  notes.quarantineReopenCounts.isEmpty = true ∧
    notes.travelRuleOwnershipReopenCounts.isEmpty = true ∧
    notes.unindexedMasterTransferReopenCounts.isEmpty = true

instance (notes : QuarantineNotes) : Decidable (Uncounted notes) :=
  inferInstanceAs (Decidable (_ ∧ _ ∧ _))

theorem Uncounted.countersLeft (uncounted : Uncounted notes) (operationId : String) :
    CountersLeft notes operationId := by
  obtain ⟨quarantines, ownership, transfers⟩ := uncounted
  refine ⟨?_, ?_, ?_⟩
  · rw [TreeMap.getD_of_isEmpty quarantines]
    decide
  · rw [TreeMap.getD_of_isEmpty ownership]
    decide
  · rw [TreeMap.getD_of_isEmpty transfers]
    decide

/-- A few synced calls, up to the first reopening. -/
theorem run_bounded {calls : List Call} (few : calls.length < 100)
    (uncounted : ∀ k < calls.length, Uncounted (afterCalls (fun _ => 0) sampleIo (calls.take k)).notes) :
    Run (fun _ => 0) (Bounded fun _ => 0) (afterCalls (fun _ => 0) sampleIo calls) := by
  refine run_afterCalls fun before call after split => ?_
  have short := congrArg List.length split
  rw [List.length_append, List.length_cons] at short
  refine ⟨rfl, ?_, fun op _ _ _ _ => ?_⟩
  · have least := afterCalls_nextSequence_le (fun _ => 0) sampleIo before
    unfold u64Max
    omega
  · have none := uncounted before.length (by omega)
    rw [split, List.take_left] at none
    exact none.countersLeft _

/-- An operation that is quarantined and reopened once. -/
def reopenedOnce : List Call :=
  [.reserve sampleRequest,
    .advance (sampleId 0) (.quarantined "decimal exceeds token precision"),
    .reopenNextRetryableQuarantine]

theorem reopened_once_replays :
    (afterCalls (fun _ => 0) sampleIo reopenedOnce).notes.quarantineReopenCounts.toList =
        [(sampleId 0, 1)] ∧
      openFile (afterCalls (fun _ => 0) sampleIo reopenedOnce).file =
        .ok (afterCalls (fun _ => 0) sampleIo reopenedOnce) := by
  have run := @run_bounded reopenedOnce (by decide) (by decide +kernel)
  exact ⟨by decide +kernel, (rebalance_replay_is_memory run).1⟩

/-! ## Reopened too often -/

/-- An append that the checks accept goes on to its bookkeeping. -/
theorem wp_append_accepted (sound : journal.poisoned = false)
    (valid : validateOperation op = .ok ())
    (applied : applySnapshot journal.operations op .liveAppend = .ok operations)
    (commits : wp (commit op (journal.operations.get? op.operationId) 1) Q E
      { journal.written op 1 .synced with operations := operations }) :
    wp (append sampleIo op) Q E journal := by
  simp only [append, wp_bind, wp_get, wp_ensure, wp_lift, wp_orFail, wp_ite, wp_set, wp_throw, sound,
    valid, applied, sampleIo, Option.some.injEq, Except.ok.injEq, forall_eq', reduceCtorEq,
    false_implies, not_true_eq_false, true_implies, implies_true, and_true]
  refine fun _ => ⟨fun _ => ?_, fun long => absurd (by decide) long⟩
  simpa only [RebalanceExecutionJournal.written, sound] using commits

theorem applySnapshot_of_step {previous : RebalanceExecutionOperation} {origin : TransitionOrigin}
    (valid : validateOperation op = .ok ())
    (stored : operations.get? op.operationId = some previous)
    (same : previous.intent = op.intent)
    (step : validateTransition op.intent previous.progress op.progress origin =
      .ok ()) : applySnapshot operations op origin = .ok (operations.put op) := by
  rw [applySnapshot, valid, ok_bind, stored]
  simp only [require_of same, step, ok_bind]
  rfl

/-- An advance that the checks accept goes on to its bookkeeping. -/
theorem wp_advance_accepted {current : RebalanceExecutionOperation}
    {progress : RebalanceExecutionProgress}
    {Q : RebalanceExecutionOperation → RebalanceExecutionJournal → Prop}
    (sound : journal.poisoned = false) (stored : journal.operations.get? operationId = some current)
    (noted : current.progress.isQuarantined = true →
      journal.progressBefore? operationId = some progress)
    (valid : validateOperation { current with progress := progress } = .ok ())
    (step : validateTransition current.intent current.progress progress .liveAppend = .ok ())
    (commits : wp (commit { current with progress := progress } (some current) 1)
      (fun _ => Q { current with progress := progress }) E
      { journal.written { current with progress := progress } 1 .synced with
        operations := journal.operations.put { current with progress := progress } }) :
    wp (advance sampleIo operationId progress) Q E journal := by
  have named : current.operationId = operationId := KeyedMap.key_of_get? stored
  subst named
  have appends : wp (appendProgress sampleIo current progress) Q E journal := by
    refine wp_appendProgress (wp_append_accepted sound valid
      (applySnapshot_of_step valid stored rfl step) ?_)
    change wp (commit _ (journal.operations.get? current.operationId) 1) _ _ _
    rw [stored]
    exact commits
  simp only [advance, wp_bind, wp_get, wp_orFail, stored, Option.some.injEq, forall_eq',
    reduceCtorEq, false_implies, and_true, wp_ite, wp_ensure, wp_lift, step, true_implies]
  exact ⟨fun held => ⟨fun _ => ⟨fun _ => appends, fun _ => trivial⟩,
    fun other => absurd (noted held) other⟩, fun _ => ⟨fun _ => appends, fun _ => trivial⟩⟩

theorem hold_valid :
    validateOperation heldDeposit = .ok () ∧
      validateTransition creditedDeposit.intent creditedDeposit.progress heldDeposit.progress
        .liveAppend = .ok () := by
  decide +kernel

theorem release_valid :
    validateOperation creditedDeposit = .ok () ∧
      validateTransition heldDeposit.intent heldDeposit.progress creditedDeposit.progress
        .liveAppend = .ok () ∧
      retryablePostCreditSettlementQuarantine "JSON-RPC error -32000: header not found"
        creditedDeposit.progress = true := by
  decide +kernel

/-- The deposit stands credited after `count` reopenings. -/
structure CreditedAgain (count : Nat) (journal : RebalanceExecutionJournal) : Prop where
  replays : Replays journal
  stored : journal.operations.get? (sampleId 0) = some creditedDeposit
  counted : journal.notes.quarantineReopenCounts.getD (sampleId 0) 0 = count
  numbered : journal.nextSequence = 3 + 2 * count

/-- The deposit is held after `count` reopenings. -/
structure HeldAgain (count : Nat) (journal : RebalanceExecutionJournal) : Prop where
  replays : Replays journal
  stored : journal.operations.get? (sampleId 0) = some heldDeposit
  noted : journal.progressBefore? (sampleId 0) = some creditedDeposit.progress
  counted : journal.notes.quarantineReopenCounts.getD (sampleId 0) 0 = count
  numbered : journal.nextSequence = 4 + 2 * count

theorem Replays.sound (replays : Replays journal) : journal.poisoned = false :=
  (openFile_eq_ok_iff.mp replays).2.2.1

/-- Holding the deposit notes where it stood. -/
theorem hold_noted (notes : QuarantineNotes) :
    (noteStep heldDeposit.operationId (some creditedDeposit) heldDeposit.progress).exec notes =
      (.ok (), { notes with progressBeforeQuarantine :=
        notes.progressBeforeQuarantine.insert (sampleId 0) creditedDeposit.progress }) :=
  rfl

/-- Releasing the deposit is one reopening to count. -/
theorem release_exec (notes : QuarantineNotes) :
    (noteStep creditedDeposit.operationId (some heldDeposit) creditedDeposit.progress).exec notes =
      (do
        let counts ← lift (countReopen notes.quarantineReopenCounts (sampleId 0)
          "rebalance quarantine reopen count overflow")
        set { notes with quarantineReopenCounts := counts } :
          Proc QuarantineNotes String Unit).exec notes :=
  rfl

theorem release_noted (left : notes.quarantineReopenCounts.getD (sampleId 0) 0 < 255) :
    (noteStep creditedDeposit.operationId (some heldDeposit) creditedDeposit.progress).exec notes =
      (.ok (), { notes with
        quarantineReopenCounts := notes.quarantineReopenCounts.insert (sampleId 0)
          (notes.quarantineReopenCounts.getD (sampleId 0) 0 + 1) }) := by
  rw [release_exec, countReopen_of_lt left]
  rfl

theorem release_stopped (full : notes.quarantineReopenCounts.getD (sampleId 0) 0 = 255) :
    (noteStep creditedDeposit.operationId (some heldDeposit) creditedDeposit.progress).exec notes =
      (.error "rebalance quarantine reopen count overflow", notes) := by
  rw [release_exec, countReopen_of_full full]
  rfl

theorem CreditedAgain.hold (credited : CreditedAgain count journal) (few : count ≤ 255) :
    wp (perform (fun _ => 0) sampleIo (.advance (sampleId 0) heldDeposit.progress))
      (fun _ => HeldAgain count) (fun _ _ => False) journal := by
  have numbered := credited.numbered
  have room : journal.nextSequence + 1 < 2 ^ 64 := by omega
  have ran := hold_noted journal.notes
  rw [perform, wp_map]
  refine wp_advance_accepted credited.replays.sound credited.stored (fun held => by cases held)
    hold_valid.1 hold_valid.2 (wp_commit ran room ?_)
  refine ⟨credited.replays.committed (applySnapshot_of_step hold_valid.1 credited.stored rfl
    hold_valid.2) ?_ room, KeyedMap.get?_put_self _ heldDeposit, TreeMap.getElem?_insert_self,
    credited.counted, ?_⟩
  · change (noteStep _ (journal.operations.get? (sampleId 0)) _).exec journal.notes = _
    rw [credited.stored]
    exact ran
  · change journal.nextSequence + 1 = _
    omega

/-- The call that releases the deposit comes to its bookkeeping. -/
theorem HeldAgain.wp_release (held : HeldAgain count journal)
    {Q : Option RebalanceExecutionOperation → RebalanceExecutionJournal → Prop}
    (commits : wp (commit creditedDeposit (some heldDeposit) 1)
      (fun _ => Q (some creditedDeposit)) E
      { journal.written creditedDeposit 1 .synced with
        operations := journal.operations.put creditedDeposit }) :
    wp (perform (fun _ => 0) sampleIo (.reopenPostCreditSettlementQuarantine (sampleId 0))) Q E
      journal := by
  rw [perform, wp_map]
  simp only [reopenPostCreditSettlementQuarantine, wp_bind, wp_get, wp_orFail, held.stored,
    Option.some.injEq, forall_eq', reduceCtorEq, false_implies, and_true, heldDeposit, held.noted,
    wp_ensure]
  refine ⟨fun _ => ?_, fun other => absurd release_valid.2.2 other⟩
  exact wp_advance_accepted held.replays.sound held.stored (fun _ => held.noted) release_valid.1
    release_valid.2.1 commits

theorem HeldAgain.release (held : HeldAgain count journal) (few : count < 255) :
    wp (perform (fun _ => 0) sampleIo (.reopenPostCreditSettlementQuarantine (sampleId 0)))
      (fun _ => CreditedAgain (count + 1)) (fun _ _ => False) journal := by
  have numbered := held.numbered
  have room : journal.nextSequence + 1 < 2 ^ 64 := by omega
  have ran := @release_noted journal.notes (by rw [held.counted]; exact few)
  refine held.wp_release (wp_commit ran room ?_)
  refine ⟨held.replays.committed (applySnapshot_of_step release_valid.1 held.stored rfl
    release_valid.2.1) ?_ room, KeyedMap.get?_put_self _ creditedDeposit, ?_, ?_⟩
  · change (noteStep _ (journal.operations.get? (sampleId 0)) _).exec journal.notes = _
    rw [held.stored]
    exact ran
  · change (journal.notes.quarantineReopenCounts.insert _ _).getD _ _ = _
    rw [TreeMap.getD_insert_self, held.counted]
  · change journal.nextSequence + 1 = _
    omega

/-- The reopening that cannot be counted is in the file, and the file can no longer be opened. -/
theorem HeldAgain.overflow (held : HeldAgain 255 journal) :
    wp (perform (fun _ => 0) sampleIo (.reopenPostCreditSettlementQuarantine (sampleId 0)))
      (fun _ _ => False)
      (fun error after => error = "rebalance quarantine reopen count overflow" ∧
        after.operations.get? (sampleId 0) = some creditedDeposit ∧
        openFile after.file = .error "rebalance quarantine reopen count overflow") journal := by
  have ran := @release_stopped journal.notes held.counted
  obtain ⟨replayed, -, -, -⟩ := openFile_eq_ok_iff.mp held.replays
  refine held.wp_release ?_
  rw [commit, wp_bind, wp_zoom]
  refine wp_of_exec_error ran ⟨rfl, KeyedMap.get?_put_self _ creditedDeposit, ?_⟩
  have known : journal.operations.get? creditedDeposit.operationId = some heldDeposit := held.stored
  have loaded : loadStep journal.toMemory ⟨journal.nextSequence, 1, creditedDeposit⟩ =
      .error "rebalance quarantine reopen count overflow" := by
    simp only [loadStep, known, ran, require_of, ok_bind]
    rfl
  change (replay (journal.file.records ++ [_]) >>= _) = _
  rw [replay_concat replayed, loaded]
  rfl

/-- The calls that hold and release the deposit, again and again. -/
def retryCalls : Nat → List Call
  | 0 => []
  | count + 1 => retryCalls count ++ [.advance (sampleId 0) heldDeposit.progress,
      .reopenPostCreditSettlementQuarantine (sampleId 0)]

theorem creditedAgain_zero : CreditedAgain 0 (afterCalls (fun _ => 0) sampleIo depositCalls) := by
  have run := @run_bounded depositCalls (by decide) (by decide +kernel)
  have reached : (afterCalls (fun _ => 0) sampleIo depositCalls).operations.get? (sampleId 0) =
      some creditedDeposit ∧
      (afterCalls (fun _ => 0) sampleIo depositCalls).notes.quarantineReopenCounts.getD
        (sampleId 0) 0 = 0 ∧
      (afterCalls (fun _ => 0) sampleIo depositCalls).nextSequence = 3 := by decide +kernel
  exact ⟨Replays.of_run run, reached.1, reached.2.1, reached.2.2⟩

theorem creditedAgain_retryCalls (few : count ≤ 255) :
    CreditedAgain count (afterCalls (fun _ => 0) sampleIo (depositCalls ++ retryCalls count)) := by
  induction count with
  | zero =>
    rw [retryCalls, List.append_nil]
    exact creditedAgain_zero
  | succ count ih =>
    have held := final_of_returns ((ih (by omega)).hold (by omega))
    have released := final_of_returns (held.release (by omega))
    rw [retryCalls, ← List.append_assoc, List.append_cons, afterCalls_concat, afterCalls_concat]
    exact released

theorem exists_heldAgain (few : count ≤ 255) :
    ∃ calls, HeldAgain count (afterCalls (fun _ => 0) sampleIo calls) := by
  have held := final_of_returns ((creditedAgain_retryCalls few).hold few)
  rw [← afterCalls_concat] at held
  exact ⟨_, held⟩

/-- A deposit whose settlement was retried 255 times is held and released once more.  The call
fails, but its record is in the file and the deposit has changed in memory, and the file can no
longer be opened. -/
theorem reopened_too_often :
    ∃ journal, Run (fun _ => 0) (fun _ io _ => io.write = .synced) journal ∧
      ((perform (fun _ => 0) sampleIo
        (.reopenPostCreditSettlementQuarantine (sampleId 0))).exec journal).1 =
          .error "rebalance quarantine reopen count overflow" ∧
      (perform (fun _ => 0) sampleIo
        (.reopenPostCreditSettlementQuarantine (sampleId 0))).final journal ≠ journal ∧
      openFile ((perform (fun _ => 0) sampleIo
        (.reopenPostCreditSettlementQuarantine (sampleId 0))).final journal).file =
          .error "rebalance quarantine reopen count overflow" := by
  obtain ⟨calls, held⟩ := exists_heldAgain (Nat.le_refl 255)
  refine ⟨afterCalls (fun _ => 0) sampleIo calls, run_afterCalls fun _ _ _ _ => rfl, ?_⟩
  have overflow := held.overflow
  unfold wp at overflow
  unfold final
  split at overflow
  · exact overflow.elim
  · rename_i error after ran
    obtain ⟨rfl, changed, unopened⟩ := overflow
    rw [ran]
    refine ⟨rfl, fun same => ?_, unopened⟩
    -- the file before the call could be opened
    have opened := held.replays
    rw [Replays, ← same, unopened] at opened
    cases opened

end PolyBot.Rebalance
