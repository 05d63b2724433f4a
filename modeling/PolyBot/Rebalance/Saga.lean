import PolyBot.Lib.Decimal
import PolyBot.Rebalance.Journal

/-!
# The history of a rebalance

The records of one operation are its history.  A step of its route moves on, a quarantine holds it
and lets it go where it was held, and the id of a new operation carries a sequence number that no
earlier one has: so a history never goes back behind a step that moved funds.

* `Saga`: the histories that live calls can record, newest first.
* `Saga.pairwise`: what an earlier progress says about a later one.
* `LawfulJournal.perform`: one call keeps every recorded history a saga.
* `rebalance_never_goes_back`: the histories of every journal that accepted calls and restarts lead
  to.
-/

namespace PolyBot.Rebalance

open Proc RebalanceExecutionOperation List

/-! ## Stages -/

/-- How far along its route a progress is.  What ends or holds an operation stands behind every
stage. -/
def routeStage : RebalanceExecutionProgress → Nat
  | .intentRecorded => 0
  | .binanceTransferSubmitted .. => 1
  | .binanceTransferCompleted .. => 2
  | .binanceWithdrawalSubmissionStarted .. | .binanceWithdrawalRetryAuthorized ..
  | .binanceMasterReturnSubmissionStarted .. | .binanceMasterReturnSubmitted .. => 3
  | .binanceWithdrawalSubmitted .. => 4
  | .fundsOnBridge .. => 5
  | .approvalMined .. => 6
  | .bridgePrepared .. => 7
  | .bridgeMined .. => 8
  | .acrossFilled .. => 9
  | .depositTransferMined .. => 10
  | .depositQuestionnaireSubmissionStarted .. => 11
  | .binanceCredited .. => 12
  | .completed .. | .cancelledStale .. | .failed .. | .quarantined .. => 13

/-- The funds have left the place they were taken from. -/
def movedFunds : RebalanceExecutionProgress → Bool
  | .bridgeMined .. | .acrossFilled .. | .depositTransferMined .. | .binanceCredited .. => true
  | _ => false

theorem le_routeStage_of_movedFunds {progress : RebalanceExecutionProgress}
    (moved : movedFunds progress = true) : 8 ≤ routeStage progress := by
  cases progress with
  | bridgeMined | acrossFilled | depositTransferMined | binanceCredited => simp [routeStage]
  | _ => cases moved

variable {intent : RebalanceExecutionIntent} {next previous held : RebalanceExecutionProgress}
  {origin : TransitionOrigin} {older : List RebalanceExecutionProgress}
  {op : RebalanceExecutionOperation} {operations : List RebalanceExecutionOperation}
  {journal : RebalanceExecutionJournal} {bound : Nat} {digest : FingerprintFields → B256}

/-- Once the bridge is mined, a step of the route does not lead back. -/
theorem routeStage_le_of_stepAllowed (active : previous.terminal = false)
    (allowed : stepAllowed origin intent previous next = true) (far : 8 ≤ routeStage previous) :
    routeStage previous ≤ routeStage next := by
  cases previous with
  | bridgeMined | acrossFilled | depositTransferMined | depositQuestionnaireSubmissionStarted
  | binanceCredited =>
    cases next <;> simp_all [stepAllowed, routeStage]
  | completed | cancelledStale | failed | quarantined => cases active
  | _ => simp [routeStage] at far

/-- A step of a route neither begins it nor holds it. -/
theorem stepAllowed_moves (active : previous.terminal = false)
    (allowed : stepAllowed origin intent previous next = true) :
    next ≠ .intentRecorded ∧ next.isQuarantined = false := by
  cases next with
  | intentRecorded | quarantined =>
    cases previous with
    | completed | cancelledStale | failed | quarantined => cases active
    | _ => simp [stepAllowed, withdrawalStepAllowed] at allowed
  | _ => exact ⟨by simp, rfl⟩

/-! ## Histories -/

/-- The histories of an operation that live calls can record, newest first. -/
inductive Saga (intent : RebalanceExecutionIntent) : List RebalanceExecutionProgress → Prop
  | start : Saga intent [.intentRecorded]
  | advance {previous next : RebalanceExecutionProgress} {older : List RebalanceExecutionProgress}
    (saga : Saga intent (previous :: older)) (active : previous.terminal = false)
    (allowed : stepAllowed .liveAppend intent previous next = true) :
    Saga intent (next :: previous :: older)
  | halt {previous next : RebalanceExecutionProgress} {older : List RebalanceExecutionProgress}
    (saga : Saga intent (previous :: older)) (active : previous.terminal = false)
    (halted : next.isFailed = true ∨ next.isQuarantined = true) :
    Saga intent (next :: previous :: older)
  | resume {held previous next : RebalanceExecutionProgress}
    {older : List RebalanceExecutionProgress}
    (saga : Saga intent (held :: previous :: older)) (quarantined : held.isQuarantined = true)
    (active : previous.terminal = false)
    (follows : next = previous ∨ stepAllowed .liveAppend intent previous next = true) :
    Saga intent (next :: held :: previous :: older)
  | retry {previous next : RebalanceExecutionProgress} {older : List RebalanceExecutionProgress}
    (saga : Saga intent (previous :: older)) (failed : previous.isFailed = true)
    (released : next.isQuarantined = false) : Saga intent (next :: previous :: older)

/-- A quarantine was entered from a progress that was under way. -/
theorem Saga.held_cases (saga : Saga intent (held :: older))
    (quarantined : held.isQuarantined = true) :
    ∃ previous rest, older = previous :: rest ∧ previous.terminal = false := by
  cases saga with
  | start => cases quarantined
  | advance _ active allowed =>
    rw [(stepAllowed_moves active allowed).2] at quarantined
    cases quarantined
  | halt _ active _ => exact ⟨_, _, rfl, active⟩
  | resume _ _ active follows =>
    rcases follows with rfl | allowed
    · rw [isQuarantined_of_active active] at quarantined
      cases quarantined
    · rw [(stepAllowed_moves active allowed).2] at quarantined
      cases quarantined
  | retry _ _ released =>
    rw [released] at quarantined
    cases quarantined

/-- What is recorded later does not go back behind what was recorded earlier: not to the intent, and
not to an earlier stage once funds were moved. -/
def NeverBehind (earlier later : RebalanceExecutionProgress) : Prop :=
  (earlier ≠ .intentRecorded → earlier.isQuarantined = false → later ≠ .intentRecorded) ∧
    (movedFunds earlier = true → routeStage earlier ≤ routeStage later)

theorem neverBehind_refl (progress : RebalanceExecutionProgress) : NeverBehind progress progress :=
  ⟨fun moved _ => moved, fun _ => Nat.le_refl _⟩

variable {earlier : RebalanceExecutionProgress} {newer : List RebalanceExecutionProgress}
  {operationId : String} {call : Call}

theorem neverBehind_step (behind : NeverBehind earlier previous)
    (active : previous.terminal = false)
    (allowed : stepAllowed .liveAppend intent previous next = true) : NeverBehind earlier next := by
  refine ⟨fun _ _ => (stepAllowed_moves active allowed).1, fun moved => ?_⟩
  have reached := behind.2 moved
  have far := le_routeStage_of_movedFunds moved
  exact reached.trans (routeStage_le_of_stepAllowed active allowed (far.trans reached))

theorem neverBehind_halt (halted : next.isFailed = true ∨ next.isQuarantined = true) :
    NeverBehind earlier next := by
  have last : next ≠ .intentRecorded ∧ routeStage next = 13 := by
    cases next with
    | failed | quarantined => exact ⟨nofun, rfl⟩
    | _ => rcases halted with halted | halted <;> cases halted
  refine ⟨fun _ _ => last.1, fun moved => ?_⟩
  rw [last.2]
  cases earlier with
  | bridgeMined | acrossFilled | depositTransferMined | binanceCredited => simp [routeStage]
  | _ => cases moved

theorem neverBehind_held {later : RebalanceExecutionProgress}
    (quarantined : held.isQuarantined = true) : NeverBehind held later := by
  cases held with
  | quarantined => exact ⟨nofun, nofun⟩
  | _ => cases quarantined

/-- Without a failure, nothing in a history goes back behind what is older. -/
theorem Saga.pairwise {history : List RebalanceExecutionProgress} (saga : Saga intent history)
    (unfailed : ∀ progress ∈ history, progress.isFailed = false) :
    history.Pairwise fun newer older => NeverBehind older newer := by
  induction saga with
  | start => exact pairwise_singleton ..
  | @advance previous next older _ active allowed ih =>
    have before := ih fun progress mem => unfailed progress (mem_cons_of_mem _ mem)
    refine pairwise_cons.mpr ⟨fun earlier mem => ?_, before⟩
    rcases mem_cons.mp mem with rfl | mem
    · exact neverBehind_step (neverBehind_refl _) active allowed
    · exact neverBehind_step ((pairwise_cons.mp before).1 earlier mem) active allowed
  | halt _ _ halted ih =>
    have before := ih fun progress mem => unfailed progress (mem_cons_of_mem _ mem)
    exact pairwise_cons.mpr ⟨fun earlier _ => neverBehind_halt halted, before⟩
  | @resume held previous next older _ quarantined active follows ih =>
    have before := ih fun progress mem => unfailed progress (mem_cons_of_mem _ mem)
    -- the quarantine steps aside: what counts is the progress it held
    have inner := pairwise_cons.mp (pairwise_cons.mp before).2
    have beforeHeld : ∀ earlier ∈ previous :: older, NeverBehind earlier previous := by
      intro earlier mem
      rcases mem_cons.mp mem with rfl | mem
      · exact neverBehind_refl _
      · exact inner.1 earlier mem
    refine pairwise_cons.mpr ⟨fun earlier mem => ?_, before⟩
    rcases mem_cons.mp mem with rfl | mem
    · exact neverBehind_held quarantined
    · rcases follows with rfl | allowed
      · exact beforeHeld earlier mem
      · exact neverBehind_step (beforeHeld earlier mem) active allowed
  | @retry previous _ _ _ failed _ _ =>
    have clean := unfailed previous (by simp)
    rw [failed] at clean
    cases clean

theorem Saga.tail (saga : Saga intent (next :: previous :: older)) :
    Saga intent (previous :: older) := by
  cases saga with
  | advance saga | halt saga | resume saga | retry saga => exact saga

theorem Saga.drop (saga : Saga intent (newer ++ next :: older)) : Saga intent (next :: older) := by
  induction newer with
  | nil => exact saga
  | cons first newer ih =>
    refine ih ?_
    cases newer with
    | nil | cons => exact saga.tail

/-- A quarantine is left to the progress it held or to one that directly follows that. -/
theorem Saga.resumes {resumed : RebalanceExecutionProgress}
    (saga : Saga intent (newer ++ resumed :: held :: older))
    (quarantined : held.isQuarantined = true) :
    ∃ previous rest, older = previous :: rest ∧
      (resumed = previous ∨ stepAllowed .liveAppend intent previous resumed = true) := by
  cases saga.drop with
  | advance _ active _ | halt _ active _ =>
    rw [isQuarantined_of_active active] at quarantined
    cases quarantined
  | resume _ _ _ follows => exact ⟨_, _, rfl, follows⟩
  | retry _ failed _ => cases held <;> simp_all [RebalanceExecutionProgress.isFailed,
      RebalanceExecutionProgress.isQuarantined]

/-! ## The history of an operation in the file -/

/-- The snapshots of one operation, newest first. -/
def newestFirst (operationId : String) (operations : List RebalanceExecutionOperation) :
    List RebalanceExecutionOperation :=
  (operations.filter fun operation => operation.operationId = operationId).reverse

theorem newestFirst_concat (operationId : String) (operations : List RebalanceExecutionOperation)
    (op : RebalanceExecutionOperation) :
    newestFirst operationId (operations ++ [op]) =
      if op.operationId = operationId then op :: newestFirst operationId operations
      else newestFirst operationId operations := by
  unfold newestFirst
  rw [filter_append, reverse_append]
  by_cases same : op.operationId = operationId
  · simp [same]
  · simp [same]

theorem mem_newestFirst :
    op ∈ newestFirst operationId operations ↔
      op ∈ operations ∧ op.operationId = operationId := by
  simp [newestFirst]

theorem recordedBy_get? (operations : List RebalanceExecutionOperation) (operationId : String) :
    (recordedBy operations).operations.get? operationId =
      (newestFirst operationId operations).head? := by
  induction operations using reverseRecOn with
  | nil => exact KeyedMap.get?_empty operationId
  | append_singleton operations op ih =>
    rw [recordedBy_concat, newestFirst_concat]
    by_cases same : op.operationId = operationId
    · rw [if_pos same, ← same]
      exact KeyedMap.get?_put_self _ op
    · rw [if_neg same, ← ih]
      exact KeyedMap.get?_put_of_ne _ same

/-- The progress noted for a quarantined operation is the one it was quarantined in. -/
theorem recordedBy_before {held previous : RebalanceExecutionOperation}
    {older : List RebalanceExecutionOperation}
    (history : newestFirst operationId operations = held :: previous :: older)
    (quarantined : held.progress.isQuarantined = true) :
    (recordedBy operations).before[operationId]? = some previous.progress := by
  induction operations using reverseRecOn with
  | nil => cases history
  | append_singleton operations op ih =>
    rw [newestFirst_concat] at history
    rw [recordedBy_concat]
    have stored := recordedBy_get? operations op.operationId
    by_cases same : op.operationId = operationId
    · rw [if_pos same, cons.injEq] at history
      obtain ⟨rfl, history⟩ := history
      rw [same, history, head?_cons] at stored
      simp [Recorded.add, same, stored, quarantined]
    · rw [if_neg same] at history
      have kept := ih history
      unfold Recorded.add
      dsimp only
      split
      · split
        · rw [Std.TreeMap.getElem?_insert, if_neg, kept]
          simpa using same
        · exact kept
      · exact kept

/-- Every operation in a list of snapshots keeps its intent and is recorded as a saga. -/
def Chronicle (operations : List RebalanceExecutionOperation) : Prop :=
  ∀ operationId, newestFirst operationId operations ≠ [] →
    ∃ intent, (∀ operation ∈ newestFirst operationId operations, operation.intent = intent) ∧
      Saga intent ((newestFirst operationId operations).map progress)

/-- A new operation, under an id that is not in use. -/
theorem Chronicle.start (chronicle : Chronicle operations)
    (unused : newestFirst op.operationId operations = [])
    (begins : op.progress = .intentRecorded) : Chronicle (operations ++ [op]) := by
  intro operationId used
  rw [newestFirst_concat] at used ⊢
  by_cases same : op.operationId = operationId
  · subst same
    rw [if_pos rfl, unused]
    refine ⟨op.intent, by simp, ?_⟩
    rw [map_singleton, begins]
    exact .start
  · rw [if_neg same] at used ⊢
    exact chronicle operationId used

/-- A failure is retried or settled, not held. -/
theorem validateTransition_failed (failed : previous.isFailed = true)
    (valid : validateTransition intent previous next origin = .ok ()) :
    next.isQuarantined = false := by
  rw [validateTransition, bind_eq_ok] at valid
  obtain ⟨⟨⟩, approved, -⟩ := valid
  rw [require_eq_ok] at approved
  cases previous with
  | failed reason =>
    cases next with
    | quarantined => rcases approved with approved | approved | approved | approved <;> cases approved
    | _ => rfl
  | _ => cases failed

/-- The next snapshot of an operation that is in the journal. -/
theorem Continues.chronicle {current : RebalanceExecutionOperation}
    (continues : Continues journal current op) (chronicle : Chronicle operations)
    (remembers : journal.recorded = recordedBy operations) :
    Chronicle (operations ++ [op]) := by
  intro operationId used
  rw [newestFirst_concat] at used ⊢
  by_cases same : op.operationId = operationId
  · subst same
    rw [if_pos rfl]
    -- the current operation is the newest snapshot
    have stored : (newestFirst op.operationId operations).head? = some current := by
      rw [← recordedBy_get?, ← remembers]
      exact continues.stored
    obtain ⟨older, history⟩ := head?_eq_some_iff.mp stored
    obtain ⟨intent, shared, saga⟩ := chronicle op.operationId (by simp [history])
    have owned : current.intent = intent := shared current (by simp [history])
    refine ⟨intent, ?_, ?_⟩
    · intro snapshot mem
      rcases mem_cons.mp mem with rfl | mem
      · rw [continues.intent, owned]
      · exact shared snapshot mem
    · rw [history, map_cons] at saga ⊢
      rw [map_cons]
      cases held : current.progress.isQuarantined with
      | true =>
        obtain ⟨before, noted, follows⟩ := continues.resumes held
        obtain ⟨progress, rest, split, active⟩ := saga.held_cases held
        cases older with
        | nil => cases split
        | cons previous older =>
          rw [map_cons, cons.injEq] at split
          obtain ⟨rfl, rfl⟩ := split
          have exact := recordedBy_before history held
          rw [← remembers] at exact
          obtain rfl : before = previous.progress := Option.some.inj (noted.symm.trans exact)
          rw [owned] at follows
          exact saga.resume held active follows
      | false =>
        have valid := continues.steps held
        rw [owned] at valid
        cases terminal : current.progress.terminal with
        | true =>
          rcases validateTransition_terminal terminal valid with failed | quarantined
          · exact saga.retry failed (validateTransition_failed failed valid)
          · rw [held] at quarantined
            cases quarantined
        | false =>
          rcases validateTransition_active terminal valid with failed | quarantined | allowed
          · exact saga.halt terminal (Or.inl failed)
          · exact saga.halt terminal (Or.inr quarantined)
          · exact saga.advance terminal allowed
  · rw [if_neg same] at used ⊢
    exact chronicle operationId used

/-! ## Ids -/

/-- Operation ids carry their sequence number. -/
theorem operationIdOf_injective {first second : Nat} {left right : List Char}
    (same : operationIdOf first left = operationIdOf second right) : first = second := by
  -- the digits of the number end at the second dash
  have digits : ∀ (sequence : Nat) (fingerprint : List Char),
      ((operationIdOf sequence fingerprint).toList.drop 10).takeWhile Char.isDigit =
        sequence.repr.toList := by
    intro sequence fingerprint
    have text : (operationIdOf sequence fingerprint).toList = "rebalance-".toList ++
        (sequence.repr.toList ++ '-' :: fingerprint.take 16) := by
      simp [operationIdOf, String.toList_append]
    rw [text, drop_left' (by decide),
      takeWhile_append_of_pos fun c mem => Decimal.isDigit_of_mem_repr mem,
      takeWhile_cons_of_neg (by decide), append_nil]
  have texts := digits first left
  rw [same, digits second right] at texts
  exact (Decimal.repr_injective (String.toList_injective texts)).symm

/-- Every snapshot belongs to an operation that was reserved below a sequence number. -/
def Numbered (operations : List RebalanceExecutionOperation) (bound : Nat) : Prop :=
  ∀ operation ∈ operations, ∃ sequence fingerprint,
    operation.operationId = operationIdOf sequence fingerprint ∧ sequence < bound

section

variable (numbered : Numbered operations bound)
include numbered

theorem Numbered.mono {more : Nat} (le : bound ≤ more) : Numbered operations more := by
  intro op mem
  obtain ⟨sequence, fingerprint, named, below⟩ := numbered op mem
  exact ⟨sequence, fingerprint, named, below.trans_le le⟩

theorem Numbered.concat
    (last : ∃ sequence fingerprint, op.operationId = operationIdOf sequence fingerprint ∧
      sequence < bound) : Numbered (operations ++ [op]) bound :=
  forall_mem_append.mpr ⟨numbered, forall_mem_singleton.mpr last⟩

/-- An id of the next sequence number is not in use. -/
theorem Numbered.unused (fingerprint : List Char) :
    newestFirst (operationIdOf bound fingerprint) operations = [] := by
  refine eq_nil_iff_forall_not_mem.mpr fun op mem => ?_
  obtain ⟨mem, named⟩ := mem_newestFirst.mp mem
  obtain ⟨sequence, other, named', below⟩ := numbered op mem
  exact below.ne (operationIdOf_injective (named'.symm.trans named))

end

/-! ## The invariant -/

/-- Every operation in the file is recorded as a saga under an id of its own. -/
structure LawfulJournal (journal : RebalanceExecutionJournal) : Prop where
  chronicle : Chronicle (snapshots journal.file)
  filed : Numbered (snapshots journal.file) (snapshots journal.file).length
  remembers : journal.poisoned = false → journal.recorded = recordedBy (snapshots journal.file)
  counted : journal.poisoned = false → journal.nextSequence ≤ (snapshots journal.file).length
  numbered : journal.poisoned = false → Numbered (snapshots journal.file) journal.nextSequence

theorem LawfulJournal.fresh : LawfulJournal .fresh where
  chronicle := fun _ used => absurd rfl used
  filed := forall_mem_nil _
  remembers := fun _ => rfl
  counted := fun _ => Nat.le_refl _
  numbered := fun _ _ mem => absurd mem not_mem_nil

/-- A call is accepted, or there is a sequence number left for the next one. -/
def Admitted (digest : FingerprintFields → B256) (journal : RebalanceExecutionJournal)
    (io : AppendLog.Io) (call : Call) : Prop :=
  (∃ result, ((perform digest io call).exec journal).1 = .ok result) ∨
    journal.nextSequence + 1 < 2 ^ 64

theorem LawfulJournal.cause (lawful : LawfulJournal journal) (sound : journal.poisoned = false)
    (cause : Cause digest journal call op) :
    Chronicle (snapshots journal.file ++ [op]) ∧
      (∃ sequence fingerprint, op.operationId = operationIdOf sequence fingerprint ∧
        sequence < journal.nextSequence + 1 ∧
        ((journal.operations.get? op.operationId).isSome = true →
          sequence < journal.nextSequence)) := by
  have remembers := lawful.remembers sound
  have stored : ∀ operationId, journal.operations.get? operationId =
      (newestFirst operationId (snapshots journal.file)).head? := by
    intro operationId
    rw [← recordedBy_get?, ← remembers]
    rfl
  cases cause with
  | @reserved request _ =>
    have unused := (lawful.numbered sound).unused (requestFingerprint digest request)
    refine ⟨lawful.chronicle.start unused rfl, journal.nextSequence,
      requestFingerprint digest request, rfl, Nat.lt_succ_self _, fun known => ?_⟩
    rw [stored] at known
    change (newestFirst (operationIdOf _ _) _).head?.isSome = true at known
    rw [unused] at known
    cases known
  | @continued _ current _ continues _ _ =>
    have newest := stored op.operationId
    rw [continues.stored] at newest
    obtain ⟨mem, named⟩ := mem_newestFirst.mp (mem_of_head? newest.symm)
    obtain ⟨sequence, fingerprint, id, below⟩ := lawful.numbered sound current mem
    exact ⟨continues.chronicle lawful.chronicle remembers, sequence, fingerprint,
      named.symm.trans id, below.trans (Nat.lt_succ_self _), fun _ => below⟩

/-- One call keeps every history a saga. -/
theorem LawfulJournal.perform {io : AppendLog.Io} (lawful : LawfulJournal journal)
    (admitted : Admitted digest journal io call) :
    LawfulJournal ((perform digest io call).final journal) := by
  have step : wp (Rebalance.perform digest io call) (fun _ => LawfulJournal)
      (fun _ after => journal.nextSequence + 1 < 2 ^ 64 → LawfulJournal after) journal := by
    refine wp_perform lawful (fun _ _ => lawful) fun op cause => ?_
    have recorded : ∀ after : RebalanceExecutionJournal, journal.poisoned = false →
        Appended journal op after → journal.nextSequence ≤ after.nextSequence →
        after.nextSequence ≤ journal.nextSequence + 1 →
        (∃ sequence fingerprint, op.operationId = operationIdOf sequence fingerprint ∧
          sequence < after.nextSequence) → LawfulJournal after := by
      intro after sound appended least most named
      have length : (snapshots after.file).length = (snapshots journal.file).length + 1 := by
        rw [appended.snapshots, length_append, length_singleton]
      have counted : after.nextSequence ≤ (snapshots after.file).length := by
        rw [length]
        exact most.trans (Nat.succ_le_succ (lawful.counted sound))
      have numbered : Numbered (snapshots after.file) after.nextSequence := by
        rw [appended.snapshots]
        exact ((lawful.numbered sound).mono least).concat named
      refine ⟨?_, numbered.mono counted, fun _ => ?_, fun _ => counted, fun _ => numbered⟩
      · rw [appended.snapshots]
        exact (lawful.cause sound cause).1
      · rw [appended.recorded, appended.snapshots, recordedBy_concat, lawful.remembers sound]
    apply wp_append_recorded
    · exact fun _ _ => lawful
    · intro after sound same poisoned written _ _
      have clean : after.poisoned = false → False := fun clean => by
        rw [poisoned] at clean
        cases clean
      obtain ⟨chronicle, sequence, fingerprint, named, below, -⟩ := lawful.cause sound cause
      rcases written with unchanged | kept
      · refine ⟨?_, ?_, fun h => (clean h).elim, fun h => (clean h).elim, fun h => (clean h).elim⟩
        · rw [unchanged]
          exact lawful.chronicle
        · rw [unchanged]
          exact lawful.filed
      · refine ⟨?_, ?_, fun h => (clean h).elim, fun h => (clean h).elim, fun h => (clean h).elim⟩
        · rw [kept]
          exact chronicle
        · rw [kept, length_append, length_singleton]
          refine (lawful.filed.mono (Nat.le_succ _)).concat ⟨sequence, fingerprint, named, ?_⟩
          exact below.trans_le (Nat.succ_le_succ (lawful.counted sound))
    · intro after sound appended same known _ room
      -- a reservation has nothing to count, so only the sequence number can stop it
      obtain ⟨-, sequence, fingerprint, named, -, below⟩ := lawful.cause sound cause
      refine recorded after sound appended same.ge (same.le.trans (Nat.le_succ _)) ?_
      rw [same]
      exact ⟨sequence, fingerprint, named, below (known room)⟩
    · intro after sound appended next
      obtain ⟨-, sequence, fingerprint, named, below, -⟩ := lawful.cause sound cause
      refine recorded after sound appended (by omega) next.le ?_
      rw [next]
      exact ⟨sequence, fingerprint, named, below⟩
  unfold wp at step
  unfold final
  split at step
  · rename_i ran
    rw [ran]
    exact step
  · rename_i failed _ ran
    rw [ran]
    rcases admitted with ⟨result, accepted⟩ | room
    · rw [ran] at accepted
      cases accepted
    · exact step room

theorem LawfulJournal.openFile {reopened : RebalanceExecutionJournal}
    (lawful : LawfulJournal journal) (opened : openFile journal.file = .ok reopened) :
    LawfulJournal reopened := by
  obtain ⟨recorded, counted, -, file⟩ := openFile_eq_ok opened
  have length : reopened.nextSequence = (snapshots reopened.file).length := by
    rw [counted, file, snapshots, length_map]
  rw [← file] at recorded
  refine ⟨?_, ?_, fun _ => recorded, fun _ => length.le, fun _ => ?_⟩
  · rw [file]
    exact lawful.chronicle
  · rw [file]
    exact lawful.filed
  · rw [length, file]
    exact lawful.filed

theorem LawfulJournal.of_run (run : Run digest (Admitted digest) journal) :
    LawfulJournal journal := by
  induction run with
  | fresh => exact .fresh
  | call _ io call admitted ih => exact ih.perform admitted
  | restart _ opened ih => exact ih.openFile opened

/-- The snapshots of one operation in the order they were recorded. -/
def RebalanceExecutionJournal.history (journal : RebalanceExecutionJournal) (operationId : String) :
    List RebalanceExecutionOperation :=
  (snapshots journal.file).filter fun operation => operation.operationId = operationId

/-- In every journal that accepted calls and restarts lead to, the history of an operation that did
not fail never goes back: behind the intent it was recorded with, or behind a stage in which funds
were moved.  A quarantine is left exactly to the progress before it, or to one that directly
follows that. -/
theorem rebalance_never_goes_back {digest : FingerprintFields → B256}
    {journal : RebalanceExecutionJournal} (run : Run digest (Admitted digest) journal)
    {operationId : String}
    (unfailed : ∀ operation ∈ journal.history operationId, operation.progress.isFailed = false) :
    ((journal.history operationId).map progress).Pairwise NeverBehind ∧
      ∀ older held resumed newer,
        journal.history operationId = older ++ held :: resumed :: newer →
        held.progress.isQuarantined = true →
        ∃ previous, older.getLast? = some previous ∧
          (resumed.progress = previous.progress ∨ stepAllowed .liveAppend resumed.intent
            previous.progress resumed.progress = true) := by
  have lawful := LawfulJournal.of_run run
  have reversed : (journal.history operationId).reverse =
      newestFirst operationId (snapshots journal.file) := rfl
  by_cases empty : newestFirst operationId (snapshots journal.file) = []
  · have none : journal.history operationId = [] := by
      rw [← reverse_eq_nil_iff, reversed, empty]
    refine ⟨by simp [none], fun older held resumed newer split => ?_⟩
    rw [none] at split
    simp at split
  · obtain ⟨intent, shared, saga⟩ := lawful.chronicle operationId empty
    rw [← reversed] at shared saga
    refine ⟨?_, fun older held resumed newer split quarantined => ?_⟩
    · rw [map_reverse] at saga
      have ordered := saga.pairwise (by simpa using unfailed)
      exact pairwise_reverse.mp ordered
    · rw [split] at saga
      simp only [reverse_append, reverse_cons, append_assoc, singleton_append,
        map_append, map_cons] at saga
      obtain ⟨previous, rest, lastly, follows⟩ := saga.resumes quarantined
      have owned : resumed.intent = intent := shared resumed (by simp [split])
      change older.reverse.map _ = previous :: rest at lastly
      cases before : older.reverse with
      | nil =>
        rw [before] at lastly
        cases lastly
      | cons last others =>
        rw [before, map_cons, cons.injEq] at lastly
        refine ⟨last, by simp [getLast?_eq_head?_reverse, before], ?_⟩
        rw [owned, lastly.1]
        exact follows

/-- A deposit is quarantined after its credit and reopened. -/
def heldOnce : List Call :=
  depositCalls ++ [.advance (sampleId 0) heldDeposit.progress,
    .reopenPostCreditSettlementQuarantine (sampleId 0)]

/-- The progress that is recorded of it. -/
def heldOnceProgress : List RebalanceExecutionProgress :=
  ((afterCalls (fun _ => 0) sampleIo heldOnce).history (sampleId 0)).map progress

theorem held_once_goes_on : heldOnceProgress =
      [.intentRecorded, .depositTransferMined 480 1, .binanceCredited "deposit" 10,
        .quarantined "JSON-RPC error -32000: header not found", .binanceCredited "deposit" 10] ∧
    heldOnceProgress.Pairwise NeverBehind := by
  have run : Run (fun _ => 0) (Admitted fun _ => 0) (afterCalls (fun _ => 0) sampleIo heldOnce) := by
    refine run_afterCalls fun before call after split => Or.inr ?_
    have few := afterCalls_nextSequence_le (fun _ => 0) sampleIo before
    have short := congrArg length split
    rw [length_append, length_cons] at short
    change 5 = _ at short
    omega
  have unfailed : ∀ operation ∈ (afterCalls (fun _ => 0) sampleIo heldOnce).history (sampleId 0),
      operation.progress.isFailed = false := by decide +kernel
  exact ⟨by decide +kernel, (rebalance_never_goes_back run unfailed).1⟩

end PolyBot.Rebalance
