import PolyBot.Lib.Decimal
import PolyBot.Wallet.Journal

/-!
# The journal read back

Every call of the journal goes through one append, whatever it records.  Without a failed write the
file is therefore always opened to the operations in memory, until the sequence numbers run out:
the record that finds no next number is written and applied before the call fails, and the file
that holds it cannot be opened any more.

* `current_journalAfter`: the file and the memory agree.
* `uniqueOwner_journalAfter`: one owner for each nonce.
* `Follows`: what a later status of an operation keeps from an earlier one.
* `replay_is_memory_while_counted`: the three together, for every sequence of calls.
-/

namespace PolyBot.Wallet

open Proc KeyedMap

/-- The calls that record something, with their arguments. -/
inductive JournalCall where
  | recordIntent (intent : JournalIntent)
  | recordSigned (identity : JournalOperationIdentity) (hash : B256)
  | recordBroadcast (identity : JournalOperationIdentity) (hash : B256)
  | recordUnknownOutcome (identity : JournalOperationIdentity) (hash : B256)
      (reason : UnknownOutcomeReason)
  | recordMined (identity : JournalOperationIdentity) (hash : B256) (blockNumber : Nat)
      (success : Bool)
  | recordCancelledBeforeSigning (identity : JournalOperationIdentity)
  | recordRejectedBeforeBroadcast (identity : JournalOperationIdentity) (hash : B256)
  deriving DecidableEq

def JournalCall.run (io : AppendLog.Io) : JournalCall → TransactionProc Unit
  | recordIntent intent => TransactionJournal.recordIntent io intent
  | recordSigned identity hash => TransactionJournal.recordSigned io identity hash
  | recordBroadcast identity hash => TransactionJournal.recordBroadcast io identity hash
  | recordUnknownOutcome identity hash reason =>
    TransactionJournal.recordUnknownOutcome io identity hash reason
  | recordMined identity hash blockNumber success =>
    TransactionJournal.recordMined io identity hash blockNumber success
  | recordCancelledBeforeSigning identity =>
    TransactionJournal.recordCancelledBeforeSigning io identity
  | recordRejectedBeforeBroadcast identity hash =>
    TransactionJournal.recordRejectedBeforeBroadcast io identity hash

/-- The clock and the encoded length of a record that is written without a failure. -/
structure DurableIo where
  clock : Option Nat
  encodedLen : Option Nat
  deriving DecidableEq

def DurableIo.io (durable : DurableIo) : AppendLog.Io :=
  ⟨durable.clock, durable.encodedLen, .synced⟩

namespace TransactionJournal

/-- The journal of an empty file. -/
def fresh : TransactionJournal := ⟨empty, 0, false, ⟨[], false⟩⟩

/-- The journal after one call, whichever way it ended. -/
def after (journal : TransactionJournal) (step : DurableIo × JournalCall) : TransactionJournal :=
  (step.2.run step.1.io).final journal

/-- The journal after a sequence of calls. -/
def afterAll (journal : TransactionJournal) (steps : List (DurableIo × JournalCall)) :
    TransactionJournal :=
  steps.foldl after journal

end TransactionJournal

open TransactionJournal

/-! ## Every call is one append -/

variable {journal : TransactionJournal} {event : WireEvent} {n : Nat}

/-- What holds of a journal and after each of its appends holds after each call. -/
theorem JournalCall.final_induction {P : TransactionJournal → Prop} {io : AppendLog.Io}
    (unchanged : P journal)
    (appended : ∀ identity event, P ((append io identity event).final journal))
    (call : JournalCall) : P ((call.run io).final journal) := by
  cases call with
  | recordIntent intent =>
    refine final_of_wp ?_
    simp only [JournalCall.run, TransactionJournal.recordIntent, wp_bind, wp_lift]
    exact ⟨fun _ _ => wp_of_final (appended _ _), fun _ _ => unchanged⟩
  | recordSigned | recordBroadcast | recordUnknownOutcome | recordMined
  | recordCancelledBeforeSigning | recordRejectedBeforeBroadcast => exact appended _ _

/-- A property of the operations that every accepted record keeps is kept by every call. -/
theorem state_after {P : Operations → Prop}
    (preserved : ∀ operations payload next, P operations →
      applyPayload operations payload = .ok next → P next)
    (holds : P journal.state) (step : DurableIo × JournalCall) : P (journal.after step).state :=
  JournalCall.final_induction (P := fun journal => P journal.state) holds
    (fun _ _ => AppendLog.append_state preserved holds) step.2

theorem state_afterAll {P : Operations → Prop}
    (preserved : ∀ operations payload next, P operations →
      applyPayload operations payload = .ok next → P next)
    (holds : P journal.state) (steps : List (DurableIo × JournalCall)) :
    P (journal.afterAll steps).state := by
  induction steps generalizing journal with
  | nil => exact holds
  | cons step steps ih => exact ih (state_after preserved holds step)

theorem current_after (current : AppendLog.Current journalFormat journal)
    (step : DurableIo × JournalCall) : AppendLog.Current journalFormat (journal.after step) :=
  JournalCall.final_induction current
    (fun _ _ => current.append (fun _ => rfl) rfl _ (fun _ _ => rfl)) step.2

theorem current_afterAll (current : AppendLog.Current journalFormat journal)
    (steps : List (DurableIo × JournalCall)) :
    AppendLog.Current journalFormat (journal.afterAll steps) := by
  induction steps generalizing journal with
  | nil => exact current
  | cons step steps ih => exact ih (current_after current step)

theorem current_fresh : AppendLog.Current journalFormat fresh :=
  ⟨rfl, rfl, fun _ => rfl⟩

/-! ## Final statuses -/

/-- The statuses that no event moves: mined, rejected and cancelled. -/
def JournalStatus.isFinal (status : JournalStatus) : Bool :=
  status.mined || status.releasesNonce

theorem isFinal_of_awaitsReceipt {status : JournalStatus} (awaits : status.awaitsReceipt = true) :
    status.isFinal = false := by
  cases status <;> first | rfl | cases awaits

section Transition

variable {previous next : JournalStatus} (move : JournalStatus.Transition previous event next)

include move

theorem not_isFinal_of_transition : previous.isFinal = false := by
  cases move with
  | signed | broadcast | cancelledBeforeSigning => rfl
  | outcomeUnknown reason sent => rcases sent with rfl | rfl <;> rfl
  | minedSuccess known awaits | minedReverted known awaits => exact isFinal_of_awaitsReceipt awaits
  | rejectedBeforeBroadcast refusable => rcases refusable with rfl | rfl | rfl <;> rfl

/-- A move never takes a nonce back that was released. -/
theorem releasesNonce_of_transition : previous.releasesNonce = false :=
  (Bool.or_eq_false_iff.mp (not_isFinal_of_transition move)).2

theorem transactionHash_of_transition {hash : B256}
    (known : previous.transactionHash = some hash) : next.transactionHash = some hash := by
  cases move with
  | signed | cancelledBeforeSigning => cases known
  | broadcast other => exact known
  | outcomeUnknown reason sent => rcases sent with rfl | rfl <;> exact known
  | minedSuccess same | minedReverted same => exact same.symm.trans known
  | rejectedBeforeBroadcast refusable => rcases refusable with rfl | rfl | rfl <;> exact known

end Transition

/-! ## One owner for each nonce -/

/-- Two operations that hold one nonce of one wallet are one operation. -/
def UniqueOwner (operations : Operations) : Prop :=
  ∀ first ∈ operations.values, ∀ second ∈ operations.values,
    first.intent.identity.chainId = second.intent.identity.chainId →
    first.intent.identity.wallet = second.intent.identity.wallet →
    first.intent.identity.nonce = second.intent.identity.nonce →
    first.status.releasesNonce = false → second.status.releasesNonce = false → first = second

theorem ownsNonce_eq_false {identity : JournalOperationIdentity} {op : JournalOperation}
    (free : ownsNonce identity op = false)
    (chainId : op.intent.identity.chainId = identity.chainId)
    (wallet : op.intent.identity.wallet = identity.wallet)
    (nonce : op.intent.identity.nonce = identity.nonce) :
    op.status.releasesNonce = true := by
  simpa [ownsNonce, chainId, wallet, nonce] using free

theorem UniqueOwner.apply {operations next : Operations} {payload : WirePayload}
    (unique : UniqueOwner operations) (accepted : applyPayload operations payload = .ok next) :
    UniqueOwner next := by
  rcases applyPayload_cases accepted with
    ⟨intent, -, identity, fresh, unowned, rfl⟩ | ⟨op, status, found, same, move, rfl⟩
  · -- Nobody holds the nonce of the new operation.
    intro first memFirst second memSecond chainId wallet nonce holdsFirst holdsSecond
    rcases mem_values_put.mp memFirst with rfl | ⟨-, memFirst⟩ <;>
      rcases mem_values_put.mp memSecond with rfl | ⟨-, memSecond⟩
    · rfl
    · rw [identity] at chainId wallet nonce
      rw [ownsNonce_eq_false (unowned second memSecond) chainId.symm wallet.symm nonce.symm]
        at holdsSecond
      cases holdsSecond
    · rw [identity] at chainId wallet nonce
      rw [ownsNonce_eq_false (unowned first memFirst) chainId wallet nonce] at holdsFirst
      cases holdsFirst
    · exact unique first memFirst second memSecond chainId wallet nonce holdsFirst holdsSecond
  · -- The moved operation held its nonce before, so any other holder was itself.
    have held := releasesNonce_of_transition move
    have mem := mem_values_of_get? found
    have alone : ∀ other ∈ operations.values,
        ({ op with status := status } : JournalOperation).operationId ≠
          other.operationId →
        op.intent.identity.chainId = other.intent.identity.chainId →
        op.intent.identity.wallet = other.intent.identity.wallet →
        op.intent.identity.nonce = other.intent.identity.nonce →
        other.status.releasesNonce = true := by
      intro other memOther ne chainId wallet nonce
      rw [← Bool.not_eq_false]
      intro holds
      have one := unique op mem other memOther chainId wallet nonce held holds
      exact ne (show op.operationId = other.operationId by rw [one])
    intro first memFirst second memSecond chainId wallet nonce holdsFirst holdsSecond
    rcases mem_values_put.mp memFirst with rfl | ⟨neFirst, memFirst⟩ <;>
      rcases mem_values_put.mp memSecond with rfl | ⟨neSecond, memSecond⟩
    · rfl
    · rw [alone second memSecond neSecond chainId wallet nonce] at holdsSecond
      cases holdsSecond
    · rw [alone first memFirst neFirst chainId.symm wallet.symm nonce.symm] at holdsFirst
      cases holdsFirst
    · exact unique first memFirst second memSecond chainId wallet nonce holdsFirst holdsSecond

/-! ## What a later status keeps -/

/-- `later` is the same operation, with the hash of `earlier` if it had one, and in the same status
if that was final. -/
structure Follows (earlier later : JournalOperation) : Prop where
  intent : later.intent = earlier.intent
  hash : ∀ hash, earlier.status.transactionHash = some hash →
    later.status.transactionHash = some hash
  final : earlier.status.isFinal = true → later.status = earlier.status

theorem Follows.refl (op : JournalOperation) : Follows op op :=
  ⟨rfl, fun _ known => known, fun _ => rfl⟩

/-- The journal has an operation that follows `earlier`. -/
def Keeps (earlier : JournalOperation) (operations : Operations) : Prop :=
  ∃ later, operations.get? earlier.operationId = some later ∧ Follows earlier later

theorem Keeps.apply {earlier : JournalOperation} {operations next : Operations}
    {payload : WirePayload} (keeps : Keeps earlier operations)
    (accepted : applyPayload operations payload = .ok next) : Keeps earlier next := by
  obtain ⟨later, found, follows⟩ := keeps
  rcases applyPayload_cases accepted with
    ⟨intent, -, identity, fresh, -, rfl⟩ | ⟨op, status, stored, same, move, rfl⟩
  · have ne : payload.identity.operationId ≠ earlier.operationId := by
      intro eq
      rw [eq, found] at fresh
      cases fresh
    refine ⟨later, ?_, follows⟩
    rw [get?_put_of_ne]
    · exact found
    · rw [JournalOperation.operationId, identity]
      exact ne
  · have key : op.operationId = payload.identity.operationId := key_of_get? stored
    by_cases eq : payload.identity.operationId = earlier.operationId
    · rw [eq, found, Option.some.injEq] at stored
      subst stored
      refine ⟨{ later with status := status }, ?_, follows.intent, ?_, ?_⟩
      · rw [← eq, ← key]
        exact get?_put_self operations { later with status := status }
      · exact fun hash known => transactionHash_of_transition move (follows.hash hash known)
      · intro final
        have closed := not_isFinal_of_transition move
        rw [follows.final final, final] at closed
        cases closed
    · refine ⟨later, ?_, follows⟩
      rw [get?_put_of_ne]
      · exact found
      · exact key.trans_ne eq

/-! ## The main result -/

/-- One call writes at most one record. -/
theorem length_records_after (journal : TransactionJournal) (step : DurableIo × JournalCall) :
    (journal.after step).file.records.length ≤ journal.file.records.length + 1 := by
  refine JournalCall.final_induction
    (P := fun next => next.file.records.length ≤ journal.file.records.length + 1) (by omega) ?_
    step.2
  intro identity event
  refine final_of_wp
    (P := fun next : TransactionJournal =>
      next.file.records.length ≤ journal.file.records.length + 1) ?_
  apply AppendLog.wp_append
  · intro _
    omega
  · exact fun _ _ _ _ _ failed => absurd rfl failed
  · intro now next _ _ _ _
    exact (List.length_append).le
  · intro now next _ _ _ _ _
    exact (List.length_append).le

theorem uniqueOwner_empty : UniqueOwner empty := by
  intro first mem
  rw [values_empty] at mem
  exact absurd mem List.not_mem_nil

theorem replay_is_memory_while_counted (steps : List (DurableIo × JournalCall)) :
    let journal := fresh.afterAll steps
    (openFile journal.file = .ok journal ↔
        journal.file.records.length < 2 ^ 64) ∧
      journal.file.records.length ≤ steps.length ∧
      UniqueOwner journal.state ∧
      ∀ operation ∈ journal.state.values, ∀ later, ∃ followed,
        (journal.afterAll later).operation operation.operationId = some followed ∧
        Follows operation followed := by
  intro journal
  refine ⟨(current_afterAll current_fresh steps).load_eq_ok_iff, ?_, ?_, ?_⟩
  · exact (AppendLog.measure_foldl_le (·.file.records.length) length_records_after
      fresh steps).trans_eq (Nat.zero_add _)
  · exact state_afterAll (fun _ _ _ unique accepted => unique.apply accepted) uniqueOwner_empty
      steps
  · intro operation mem later
    have stored : Keeps operation journal.state :=
      ⟨operation, mem_values.mp mem, .refl operation⟩
    exact state_afterAll (fun _ _ _ keeps accepted => keeps.apply accepted) stored later

/-! ## A file with more records than numbers -/

/-- The intent with the number `n` as its id and its nonce. -/
def numberedIntent (n : Nat) : JournalIntent :=
  ⟨⟨n.repr, 480, 0x11, n, none⟩, "swap", 0x22, 0, 0⟩

/-- The first `n` intents, each written at once. -/
def numberedSteps (n : Nat) : List (DurableIo × JournalCall) :=
  (List.range n).map fun i => (⟨some 1, some 512⟩, .recordIntent (numberedIntent i))

/-- A journal of the first `n` intents. -/
structure Numbered (n : Nat) (journal : TransactionJournal) : Prop where
  sound : journal.poisoned = false
  counted : journal.file.records.length = n
  stored : ∀ operation ∈ journal.state.values, ∃ i < n, operation.intent = numberedIntent i

theorem validateIdentity_numbered (below : n < 10 ^ 160) :
    validateIdentity (numberedIntent n).identity = .ok () := by
  have digits : hasOnly ['-', '_', ':', '.'] n.repr = true := by
    rw [hasOnly, List.all_eq_true]
    intro c mem
    rw [Char.isAlphanum, Decimal.isDigit_of_mem_repr mem, Bool.or_true, Bool.true_or]
  have size : n.repr.utf8ByteSize ≤ maxOperationIdBytes :=
    Decimal.utf8ByteSize_repr_le (k := 160) (by omega) below
  have identifier : validateIdentifier "operation id" n.repr maxOperationIdBytes = .ok () := by
    rw [validateIdentifier, require_of Nat.repr_ne_empty, ok_bind, require_of size, ok_bind,
      require_of digits]
  change (validateIdentifier "operation id" n.repr maxOperationIdBytes >>= _) = _
  rw [identifier]
  rfl

theorem validateIntent_numbered (below : n < 10 ^ 160) :
    validateIntent (numberedIntent n) = .ok () := by
  rw [validateIntent, validateIdentity_numbered below, ok_bind]
  change (validateIdentifier "purpose" "swap" maxPurposeBytes >>= fun _ =>
    require ((0x22 : Address) ≠ 0) "journal target is zero") = .ok ()
  decide +kernel

/-- The next intent is fresh, and nobody holds its nonce. -/
theorem applyPayload_numbered (below : n < 10 ^ 160)
    (numbered : Numbered n journal) (sequence : Nat) :
    applyPayload journal.state ⟨sequence, 1, (numberedIntent n).identity,
        .intentRecorded "swap" 0x22 0 0⟩ =
      .ok (journal.state.put ⟨numberedIntent n, .intentRecorded⟩) := by
  have fresh : journal.state.get? (numberedIntent n).identity.operationId = none := by
    rcases found : journal.state.get? (numberedIntent n).identity.operationId with _ | op
    · rfl
    · obtain ⟨i, less, intent⟩ := numbered.stored op (mem_values_of_get? found)
      have key : op.operationId = n.repr := key_of_get? found
      rw [JournalOperation.operationId, intent] at key
      exact absurd (Decimal.repr_injective key) (by omega)
  have unowned : journal.state.values.any (ownsNonce (numberedIntent n).identity) = false := by
    rw [List.any_eq_false]
    intro op mem
    obtain ⟨i, less, intent⟩ := numbered.stored op mem
    have ne : i ≠ n := by omega
    simp [ownsNonce, intent, numberedIntent, ne]
  rw [applyPayload, require_of Nat.one_pos, ok_bind, validateIdentity_numbered below, ok_bind]
  dsimp only
  rw [require_of fresh, ok_bind, require_of unowned, ok_bind]
  exact (congrArg (· >>= fun _ => _) (validateIntent_numbered below)).trans rfl

theorem Numbered.next (below : n < 10 ^ 160) (numbered : Numbered n journal) :
    Numbered (n + 1)
      (journal.after (⟨some 1, some 512⟩, .recordIntent (numberedIntent n))) := by
  have stored : ∀ op ∈ (journal.state.put ⟨numberedIntent n, .intentRecorded⟩).values,
      ∃ i < n + 1, op.intent = numberedIntent i := by
    intro op mem
    rcases mem_values_put.mp mem with rfl | ⟨-, mem⟩
    · exact ⟨n, by omega, rfl⟩
    · obtain ⟨i, less, intent⟩ := numbered.stored op mem
      exact ⟨i, by omega, intent⟩
  have written : ∀ sequence, Numbered (n + 1)
      { journal with
        state := journal.state.put ⟨numberedIntent n, .intentRecorded⟩
        nextSequence := sequence
        file := journal.file.after
          ⟨journal.nextSequence, 1, (numberedIntent n).identity,
            .intentRecorded "swap" 0x22 0 0⟩ .synced } := by
    intro sequence
    refine ⟨numbered.sound, ?_, stored⟩
    change (journal.file.records ++ [_]).length = n + 1
    rw [List.length_append, List.length_singleton, numbered.counted]
  refine final_of_wp ?_
  simp only [JournalCall.run, recordIntent, wp_bind, wp_lift,
    validateIntent_numbered below]
  refine ⟨fun _ _ => ?_, fun _ failed => by cases failed⟩
  exact AppendLog.wp_append_accepted numbered.sound (validateIdentity_numbered below) rfl
    (applyPayload_numbered below numbered _) rfl (by decide) rfl (fun _ => written _)
    (fun _ => written _)

theorem numbered_afterAll (below : n ≤ 10 ^ 160) :
    Numbered n (fresh.afterAll (numberedSteps n)) := by
  induction n with
  | zero =>
    refine ⟨rfl, rfl, ?_⟩
    intro op mem
    change op ∈ (empty : Operations).values at mem
    rw [values_empty] at mem
    exact absurd mem List.not_mem_nil
  | succ n ih =>
    have earlier := ih (by omega)
    rw [numberedSteps, List.range_succ, List.map_append, afterAll,
      List.foldl_append]
    exact earlier.next (by omega)

/-- After `2 ^ 64` intents the journal cannot be opened any more. -/
theorem exhausted_journal_does_not_open :
    openFile
        (fresh.afterAll (numberedSteps (2 ^ 64))).file ≠
      .ok (fresh.afterAll (numberedSteps (2 ^ 64))) := by
  have numbered := numbered_afterAll (n := 2 ^ 64) (by omega)
  intro opened
  have few := (current_afterAll current_fresh _).load_eq_ok_iff.mp opened
  rw [numbered.counted] at few
  omega

end PolyBot.Wallet
