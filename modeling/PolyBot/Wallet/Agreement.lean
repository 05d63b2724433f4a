import PolyBot.Wallet.NonceLane

/-!
# Agreement of a lane with its journal

A lane that is ready should find no operation of its wallet in the way, and a lane that holds an
operation should find that one and no other.  `Agrees` says so.

* `Sound.after`: one call keeps the agreement when it is `Clear`.
* `agrees_of_hydrated_run`: so does a whole run from a hydrated lane.
* `recordReceipt_breaks_agreement`: a receipt accepted while an unsigned operation is held always
  breaks it, so the condition of `Clear` on receipts cannot be dropped.
-/

namespace PolyBot.Wallet

open Proc NonceLane KeyedMap
open JournalStatus (Transition)
open TransactionJournal (append blocks mem_recoveryBlockingFor operation recoveryBlockingFor)

/-- The journal has one recovery-blocking operation of the wallet: that of `identity`, with the
transaction hash `hash`. -/
def HoldsOnly (journal : TransactionJournal) (chainId : Nat) (wallet : Address)
    (identity : JournalOperationIdentity) (hash : Option B256) : Prop :=
  ∃ operation, journal.recoveryBlockingFor chainId wallet = [operation] ∧
    journal.operation identity.operationId = some operation ∧
    operation.intent.identity = identity ∧ operation.status.transactionHash = hash

/-- The agreement of a lane with its journal.  No method puts a hydrated lane into the last two
states. -/
def Agrees (world : LaneWorld) : Prop :=
  match world.lane.state with
  | .ready _ => world.journal.recoveryBlockingFor world.lane.chainId world.lane.wallet = []
  | .reserved identity =>
    HoldsOnly world.journal world.lane.chainId world.lane.wallet identity none
  | .signed identity hash =>
    HoldsOnly world.journal world.lane.chainId world.lane.wallet identity (some hash)
  | .recoveryRequired identity hash =>
    HoldsOnly world.journal world.lane.chainId world.lane.wallet identity hash
  | .broadcast .. | .untrackedPending .. => False

/-- Every journaled nonce is below `u64::MAX`. -/
def NoncesFit (journal : TransactionJournal) : Prop :=
  ∀ operation ∈ journal.state.values, operation.intent.identity.nonce < u64Max

/-- The nonce a call reserves is below `u64::MAX`. -/
def LaneCall.NonceFits (world : LaneWorld) : LaneCall → Prop
  | .reserve .. => ∀ nextNonce, world.lane.state = .ready nextNonce → nextNonce < u64Max
  | .reserveWithNonce _ _ _ _ nonce => nonce < u64Max
  | _ => True

/-- The lane holds an operation that has no transaction yet. -/
def NonceLaneState.holdsUnsigned : NonceLaneState → Bool
  | .reserved _ | .recoveryRequired _ none => true
  | _ => false

/-- The journal has a sequence number left for the call, and a receipt that arrives while the lane
holds an unsigned operation is not that of a journaled transaction still waiting for one. -/
def LaneCall.Clear (world : LaneWorld) (call : LaneCall) : Prop :=
  world.journal.nextSequence < u64Max ∧
    ∀ io receipt, call = .recordReceipt io receipt → world.lane.state.holdsUnsigned = true →
      ∀ operation, world.journal.operationByTransactionHash receipt.transactionHash =
        some operation → operation.status.awaitsReceipt = false

theorem LaneCall.Clear.of_no_receipt {world : LaneWorld} {call : LaneCall}
    (capacity : world.journal.nextSequence < u64Max)
    (other : ∀ io receipt, call ≠ .recordReceipt io receipt) : call.Clear world :=
  ⟨capacity, fun io receipt isReceipt => absurd isReceipt (other io receipt)⟩

theorem LaneCall.Clear.of_not_unsigned {world : LaneWorld} {call : LaneCall}
    (capacity : world.journal.nextSequence < u64Max)
    (signed : world.lane.state.holdsUnsigned = false) : call.Clear world :=
  ⟨capacity, fun _ _ _ holds => absurd holds (by simp [signed])⟩

/-! ## One journal write -/

@[simp]
def WireEvent.NotIntent (event : WireEvent) : Prop :=
  ∀ purpose target nativeValue calldataHash,
    event ≠ .intentRecorded purpose target nativeValue calldataHash

section Write

variable {journal : TransactionJournal} {io : AppendLog.Io}
  {Q : Unit → TransactionJournal → Prop} {E : String → TransactionJournal → Prop}

/-- A record of an existing operation either moves it or leaves the operations alone. -/
theorem TransactionJournal.wp_append_move {identity : JournalOperationIdentity} {event : WireEvent}
    (exhausted : ∀ e journal', u64Max ≤ journal.nextSequence → E e journal')
    (notIntent : event.NotIntent)
    (failed : ∀ e journal', journal'.state = journal.state → E e journal')
    (moved : ∀ op status journal',
      journal.operation identity.operationId = some op →
      op.intent.identity = identity → Transition op.status event status →
      journal'.state = journal.state.put { op with status := status } → Q () journal') :
    wp (append io identity event) Q E journal := by
  unfold append
  apply AppendLog.wp_append
  · exact fun e => failed e journal rfl
  · exact fun now next _ _ _ _ => failed _ _ rfl
  · intro now next _ _ _ full
    refine exhausted _ _ ?_
    unfold u64Max
    omega
  · intro now next _ _ _ accepted _
    rcases applyPayload_cases accepted with ⟨intent, isIntent, _⟩ | ⟨op, status, found, same,
      transition, rfl⟩
    · exact absurd isIntent (notIntent _ _ _ _)
    · exact moved op status _ found same transition rfl

/-- A recorded intent opens an operation under a fresh id, or nothing happens. -/
theorem TransactionJournal.wp_recordIntent {intent : JournalIntent}
    (capacity : journal.nextSequence < u64Max)
    (failed : ∀ e journal', journal'.state = journal.state → E e journal')
    (opened : ∀ journal', journal.operation intent.identity.operationId = none →
      journal'.state = journal.state.put ⟨intent, .intentRecorded⟩ → Q () journal') :
    wp (TransactionJournal.recordIntent io intent) Q E journal := by
  unfold TransactionJournal.recordIntent append
  rw [wp_bind, wp_lift]
  refine ⟨fun _ _ => ?_, fun e _ => failed e journal rfl⟩
  apply AppendLog.wp_append
  · exact fun e => failed e journal rfl
  · exact fun now next _ _ _ _ => failed _ _ rfl
  · intro now next _ full
    unfold u64Max at capacity
    omega
  · intro now next _ _ _ accepted _
    rcases applyPayload_cases accepted with ⟨intent', isIntent, same, fresh, _, rfl⟩ |
      ⟨op, status, _, _, transition, _⟩
    · have eq : intent' = intent := by
        obtain ⟨identity, purpose, target, nativeValue, calldataHash⟩ := intent
        obtain ⟨identity', purpose', target', nativeValue', calldataHash'⟩ := intent'
        simp only [WireEvent.intentRecorded.injEq] at isIntent
        obtain ⟨rfl, rfl, rfl, rfl⟩ := isIntent
        simp_all
      subst eq
      exact opened _ fresh rfl
    · exact absurd rfl (transition.event_ne_intent _ _ _ _)

end Write

/-! ## What a write does to the blocking operations -/

section Blocking

variable {journal journal' : TransactionJournal} {chainId : Nat} {wallet : Address}
  {identity : JournalOperationIdentity} {hash : Option B256} {op : JournalOperation}
  {status : JournalStatus}

theorem recoveryBlockingFor_congr (same : journal'.state = journal.state) :
    journal'.recoveryBlockingFor chainId wallet = journal.recoveryBlockingFor chainId wallet := by
  unfold recoveryBlockingFor
  rw [same]

/-- A write of the only operation that may block, with a status that does not. -/
theorem freed (free : status.recoveryBlocking = false)
    (written : journal'.state = journal.state.put { op with status := status })
    (others : ∀ other ∈ journal.state.values, blocks chainId wallet other = true →
      other.operationId = op.operationId) :
    journal'.recoveryBlockingFor chainId wallet = [] := by
  unfold recoveryBlockingFor
  rw [written]
  apply filter_values_put_eq_nil
  · exact others
  · simp [blocks, free]

section

variable (held : HoldsOnly journal chainId wallet identity hash)
include held

theorem HoldsOnly.congr
    (same : journal'.state = journal.state) :
    HoldsOnly journal' chainId wallet identity hash := by
  unfold HoldsOnly operation at held ⊢
  rw [recoveryBlockingFor_congr same, same]
  exact held

/-- The held operation is the only one that blocks, so every blocking one has its id. -/
theorem HoldsOnly.blocks_id :
    ∀ other ∈ journal.state.values, blocks chainId wallet other = true →
      other.operationId = identity.operationId := by
  obtain ⟨held, only, _, rfl, _⟩ := held
  intro other mem blocking
  have listed := mem_recoveryBlockingFor.mpr ⟨mem, blocking⟩
  rw [only, List.mem_singleton] at listed
  rw [listed]
  rfl

theorem HoldsOnly.blocks :
    identity.chainId = chainId ∧ identity.wallet = wallet := by
  obtain ⟨held, only, _, rfl, _⟩ := held
  have listed : held ∈ journal.recoveryBlockingFor chainId wallet := by simp [only]
  have blocking := (mem_recoveryBlockingFor.mp listed).2
  simp only [blocks, Bool.and_eq_true, decide_eq_true_eq] at blocking
  exact blocking.1

/-- A move of the held operation to a status that still blocks: it is held with its new hash. -/
theorem HoldsOnly.moved
    (same : op.intent.identity = identity) (blocking : status.recoveryBlocking = true)
    (written : journal'.state = journal.state.put { op with status := status }) :
    HoldsOnly journal' chainId wallet identity status.transactionHash := by
  refine ⟨{ op with status := status }, ?_, ?_, same, rfl⟩
  · unfold recoveryBlockingFor
    rw [written]
    apply filter_values_put_eq_singleton
    · intro other mem blocks
      rw [held.blocks_id other mem blocks, ← same]
      rfl
    · obtain ⟨chain, address⟩ := held.blocks
      simp [TransactionJournal.blocks, same, chain, address, blocking]
  · unfold operation
    rw [written, ← same]
    exact get?_put_self _ _

/-- A move of the held operation to a status that no longer blocks. -/
theorem HoldsOnly.released
    (same : op.intent.identity = identity) (free : status.recoveryBlocking = false)
    (written : journal'.state = journal.state.put { op with status := status }) :
    journal'.recoveryBlockingFor chainId wallet = [] := by
  refine freed free written fun other mem blocks => ?_
  rw [held.blocks_id other mem blocks, ← same]
  rfl

end

theorem not_blocks_of_nil (none : journal.recoveryBlockingFor chainId wallet = []) :
    ∀ other ∈ journal.state.values, blocks chainId wallet other = true →
      False := by
  intro other mem blocking
  have listed := mem_recoveryBlockingFor.mpr ⟨mem, blocking⟩
  simp [none] at listed

/-- Where nothing blocks, a move to a status that does not block changes nothing. -/
theorem recoveryBlockingFor_moved (none : journal.recoveryBlockingFor chainId wallet = [])
    (free : status.recoveryBlocking = false)
    (written : journal'.state = journal.state.put { op with status := status }) :
    journal'.recoveryBlockingFor chainId wallet = [] :=
  freed free written fun other mem blocks => (not_blocks_of_nil none other mem blocks).elim

/-- Where nothing blocks, a new intent of the wallet is then held alone. -/
theorem holdsOnly_opened {intent : JournalIntent}
    (none : journal.recoveryBlockingFor intent.identity.chainId intent.identity.wallet = [])
    (written : journal'.state = journal.state.put ⟨intent, .intentRecorded⟩) :
    HoldsOnly journal' intent.identity.chainId intent.identity.wallet intent.identity .none := by
  refine ⟨⟨intent, .intentRecorded⟩, ?_, ?_, rfl, rfl⟩
  · unfold recoveryBlockingFor
    rw [written]
    apply filter_values_put_eq_singleton
    · exact fun other mem blocks => (not_blocks_of_nil none other mem blocks).elim
    · simp [blocks, JournalStatus.recoveryBlocking]
  · unfold operation
    rw [written]
    exact get?_put_self _ _

section

variable (fit : NoncesFit journal)
include fit

theorem NoncesFit.congr (same : journal'.state = journal.state) :
    NoncesFit journal' := by
  unfold NoncesFit at fit ⊢
  rw [same]
  exact fit

theorem NoncesFit.put
    (written : journal'.state = journal.state.put op)
    (fits : op.intent.identity.nonce < u64Max) : NoncesFit journal' := by
  intro other mem
  rw [written] at mem
  rcases mem_values_put.mp mem with rfl | ⟨_, mem⟩
  · exact fits
  · exact fit other mem

theorem NoncesFit.moved {operationId : String}
    (found : journal.operation operationId = some op)
    (written : journal'.state = journal.state.put { op with status := status }) :
    NoncesFit journal' :=
  fit.put written (fit op (mem_values_of_get? found))

theorem NoncesFit.of_operation {operationId : String}
    (found : journal.operation operationId = some op) :
    op.intent.identity.nonce < u64Max :=
  fit op (mem_values_of_get? found)

end

end Blocking

/-! ## One lane call -/

/-- The invariant of a run: the lane agrees with the journal, and no journaled nonce is the last. -/
structure Sound (world : LaneWorld) : Prop where
  agrees : Agrees world
  nonces : NoncesFit world.journal

theorem Sound.congr {world : LaneWorld} (sound : Sound world) {journal : TransactionJournal}
    (same : journal.state = world.journal.state) : Sound { world with journal := journal } := by
  refine ⟨?_, sound.nonces.congr same⟩
  have agrees := sound.agrees
  unfold Agrees at agrees ⊢
  cases state : world.lane.state <;> simp only [state] at agrees ⊢
  case ready => rw [recoveryBlockingFor_congr same]; exact agrees
  all_goals exact agrees.congr same

section Calls

variable {world : LaneWorld} {io : AppendLog.Io} {identity : JournalOperationIdentity}
  {event : WireEvent} {receipt : TransactionReceipt} {hash : B256} {blockNumber : Nat}
  {success : Bool} {Q : Unit → LaneWorld → Prop} {E : String → LaneWorld → Prop}

theorem NonceLane.wp_setState (state : NonceLaneState) :
    wp (setState state) Q E world ↔
      Q () { world with lane := { world.lane with state := state } } := Iff.rfl

/-- A record of an existing operation, written from the lane. -/
theorem NonceLane.wp_move (exhausted : ∀ e journal', u64Max ≤ world.journal.nextSequence →
      E e { world with journal := journal' })
    (notIntent : event.NotIntent)
    (failed : ∀ e journal', journal'.state = world.journal.state →
      E e { world with journal := journal' })
    (moved : ∀ op status journal',
      world.journal.operation identity.operationId = some op →
      op.intent.identity = identity → Transition op.status event status →
      journal'.state = world.journal.state.put { op with status := status } →
      Q () { world with journal := journal' }) :
    wp (onJournal (append io identity event)) Q E world := by
  unfold onJournal
  rw [wp_zoom]
  exact TransactionJournal.wp_append_move exhausted notIntent failed moved

theorem NonceLane.afterReceipt_ready (nextNonce : Nat) (state : NonceLaneState) :
    ∃ next, afterReceipt nextNonce state = .ready next := by
  cases state <;> exact ⟨_, rfl⟩

/-- The move a receipt makes: from a status that waits for one to a mined one. -/
theorem JournalStatus.Transition.of_mined {previous next : JournalStatus}
    (move : Transition previous (if success then .minedSuccess hash blockNumber
      else .minedReverted hash blockNumber) next) :
    previous.awaitsReceipt = true ∧ next.recoveryBlocking = false := by
  cases success <;> cases move <;> exact ⟨by assumption, rfl⟩

theorem not_intent_of_mined : (if success then WireEvent.minedSuccess hash blockNumber
    else .minedReverted hash blockNumber).NotIntent := by
  split <;> simp

/-- The nonce after one that is not the last. -/
theorem wp_nextNonce {nonce : Nat} {e : String} {k : Nat → LaneProc Unit}
    (fits : nonce < u64Max) (next : wp (k (nonce + 1)) Q E world) :
    wp (orFail (checkedAdd 64 nonce 1) e >>= k) Q E world := by
  unfold u64Max at fits
  have sum : checkedAdd 64 nonce 1 = some (nonce + 1) :=
    checkedAdd_eq_some.mpr ⟨by omega, rfl⟩
  rw [sum]
  exact next

/-- A call keeps the invariant, whether it returns or fails. -/
def KeepsSound {α : Type} (world : LaneWorld) (call : LaneProc α) : Prop :=
  wp call (fun _ => Sound) (fun _ => Sound) world

variable (sound : Sound world)

include sound

theorem keeps_setJournalScope (scope : EvmJournalScope) :
    KeepsSound world (setJournalScope scope) := by
  unfold KeepsSound setJournalScope
  simp only [wp_bind, wp_lift, wp_get]
  refine ⟨fun _ _ => ?_, fun _ _ => sound⟩
  cases state : world.lane.state with
  | ready nextNonce =>
    have agrees := sound.agrees
    simp only [Agrees, state] at agrees
    exact ⟨by simpa [Agrees, state] using agrees, sound.nonces⟩
  | _ => exact sound

/-- A record of an existing operation, and what the lane does when it is written. -/
theorem keeps_move (capacity : world.journal.nextSequence < u64Max)
    {after : LaneProc Unit}
    (notIntent : event.NotIntent)
    (moved : ∀ op status journal', world.journal.operation identity.operationId = some op →
      op.intent.identity = identity → identity.nonce < u64Max →
      journal'.state = world.journal.state.put { op with status := status } → NoncesFit journal' →
      ∀ previous, op.status = previous → Transition previous event status →
      KeepsSound { world with journal := journal' } after) :
    KeepsSound world (do onJournal (append io identity event); after) := by
  unfold KeepsSound
  rw [wp_bind]
  apply wp_move (fun _ _ full => absurd capacity full.not_gt) notIntent
  · exact fun e journal' same => sound.congr same
  · intro op status journal' found same move written
    have fits := sound.nonces.of_operation found
    rw [same] at fits
    exact moved op status journal' found same fits written (sound.nonces.moved found written) _ rfl
      move

/-- When the receipt of a clear call moves an operation to a status that does not block, no
operation of the wallet blocks any more. -/
theorem receipt_releases (clear : LaneCall.Clear world (.recordReceipt io receipt))
    (target : receiptTarget world receipt = some (identity, hash))
    {op : JournalOperation} {status : JournalStatus} {journal' : TransactionJournal}
    (found : world.journal.operation identity.operationId = some op)
    (same : op.intent.identity = identity)
    (awaits : op.status.awaitsReceipt = true) (free : status.recoveryBlocking = false)
    (written : journal'.state = world.journal.state.put { op with status := status }) :
    journal'.recoveryBlockingFor world.lane.chainId world.lane.wallet = [] := by
  have agrees := sound.agrees
  unfold Agrees at agrees
  unfold receiptTarget at target
  -- the looked-up operation is the one stored under the identity the receipt is recorded for
  have lookedUp : ∀ looked, world.journal.operationByTransactionHash receipt.transactionHash =
      some looked → looked.intent.identity = identity → looked = op := by
    rintro looked lookup rfl
    have stored := mem_values.mp (List.mem_of_find?_eq_some lookup)
    exact Option.some.inj (stored.symm.trans found)
  have unsigned : world.lane.state.holdsUnsigned = true →
      ∀ looked, world.journal.operationByTransactionHash receipt.transactionHash = some looked →
      looked.intent.identity = identity → False := by
    intro holds looked lookup same
    have waits := clear.2 io receipt rfl holds looked lookup
    rw [lookedUp looked lookup same, awaits] at waits
    cases waits
  cases state : world.lane.state with
  | ready nextNonce =>
    simp only [state] at agrees
    exact recoveryBlockingFor_moved agrees free written
  | signed held heldHash =>
    simp only [state, Option.some.injEq, Prod.mk.injEq] at agrees target
    obtain ⟨rfl, _⟩ := target
    exact agrees.released same free written
  | reserved held =>
    simp only [state, Option.map_eq_some_iff, Prod.mk.injEq] at target
    obtain ⟨looked, lookup, sameIdentity, _⟩ := target
    exact (unsigned (by rw [state]; rfl) looked lookup sameIdentity).elim
  | recoveryRequired held heldHash =>
    cases heldHash with
    | none =>
      simp only [state, Option.map_eq_some_iff, Prod.mk.injEq] at target
      obtain ⟨looked, lookup, sameIdentity, _⟩ := target
      exact (unsigned (by rw [state]; rfl) looked lookup sameIdentity).elim
    | some heldHash =>
      simp only [state, Option.some.injEq, Prod.mk.injEq] at agrees target
      obtain ⟨rfl, _⟩ := target
      exact agrees.released same free written
  | broadcast | untrackedPending => simp only [state] at agrees

theorem keeps_recordReceipt
    (clear : LaneCall.Clear world (.recordReceipt io receipt)) :
    KeepsSound world (recordReceipt io receipt) := by
  unfold KeepsSound recordReceipt
  rw [wp_bind, wp_get, wp_bind, wp_orFail]
  refine ⟨?_, fun _ => sound⟩
  rintro ⟨identity, hash⟩ target
  simp only
  rw [wp_bind, wp_ensure]
  refine ⟨fun _ => ?_, fun _ => sound⟩
  rw [wp_bind, wp_ensure]
  refine ⟨fun _ => ?_, fun _ => sound⟩
  apply keeps_move sound clear.1
  · exact not_intent_of_mined
  · rintro op status journal' found same fits written nonces _ rfl move
    obtain ⟨awaits, free⟩ := move.of_mined
    have released := receipt_releases sound clear target found same awaits free written
    apply wp_nextNonce fits
    obtain ⟨next, isReady⟩ := afterReceipt_ready (identity.nonce + 1) world.lane.state
    refine ⟨?_, nonces⟩
    simp only [Agrees, isReady]
    exact released

variable (capacity : world.journal.nextSequence < u64Max)

include capacity

theorem keeps_reserveWithNonce (keccak256 : List UInt8 → B256) (operationId purpose : String)
    (call : WalletCall) {nonce : Nat} (fits : nonce < u64Max) :
    KeepsSound world (reserveWithNonce keccak256 io operationId purpose call nonce) := by
  unfold KeepsSound reserveWithNonce
  simp only [wp_bind, wp_get]
  cases state : world.lane.state with
  | ready nextNonce =>
    have free := sound.agrees
    simp only [Agrees, state] at free
    simp only [wp_bind, wp_ensure, onJournal, wp_zoom, wp_setState, wp_pure]
    refine ⟨fun _ => ?_, fun _ => sound⟩
    apply TransactionJournal.wp_recordIntent capacity
    · exact fun e journal' same => sound.congr same
    · intro journal' _ written
      exact ⟨holdsOnly_opened free written, sound.nonces.put written fits⟩
  | _ => exact sound

theorem keeps_reserve (keccak256 : List UInt8 → B256) (operationId purpose : String)
    (call : WalletCall)
    (fits : ∀ nextNonce, world.lane.state = .ready nextNonce → nextNonce < u64Max) :
    KeepsSound world (reserve keccak256 io operationId purpose call) := by
  unfold KeepsSound reserve
  simp only [wp_bind, wp_get]
  cases state : world.lane.state with
  | ready nextNonce =>
    exact keeps_reserveWithNonce sound capacity keccak256 operationId purpose call
      (fits nextNonce state)
  | _ => exact sound

theorem keeps_recordSigned (transaction : SignedTransaction) :
    KeepsSound world (recordSigned io transaction) := by
  unfold KeepsSound recordSigned
  simp only [wp_bind, wp_get]
  cases state : world.lane.state with
  | reserved identity =>
    have held := sound.agrees
    simp only [Agrees, state] at held
    rw [wp_bind, wp_ensure]
    refine ⟨fun _ => ?_, fun _ => sound⟩
    rw [wp_bind, wp_ensure]
    refine ⟨fun _ => ?_, fun _ => sound⟩
    refine keeps_move sound capacity (by simp) ?_
    rintro op status journal' found same - written nonces previous - ⟨⟩
    exact ⟨held.moved same rfl written, nonces⟩
  | _ => exact sound

theorem keeps_recordBroadcast (hash : B256) : KeepsSound world (recordBroadcast io hash) := by
  unfold KeepsSound recordBroadcast
  rw [wp_bind, wp_get]
  cases state : world.lane.state with
  | signed identity signedHash =>
    have held := sound.agrees
    simp only [Agrees, state] at held
    simp only
    rw [wp_bind, wp_ensure]
    refine ⟨fun _ => ?_, fun _ => sound⟩
    refine keeps_move sound capacity (by simp) ?_
    rintro op status journal' found same fits written nonces previous - ⟨⟩
    apply wp_nextNonce fits
    exact ⟨held.released same rfl written, nonces⟩
  | _ => exact sound

theorem keeps_recordUnknownOutcome (reason : UnknownOutcomeReason) :
    KeepsSound world (recordUnknownOutcome io reason) := by
  unfold KeepsSound recordUnknownOutcome
  rw [wp_bind, wp_get]
  cases state : world.lane.state with
  | signed identity hash =>
    have held := sound.agrees
    simp only [Agrees, state] at held
    refine keeps_move sound capacity (by simp) ?_
    rintro op status journal' found same - written nonces previous - ⟨⟩
    exact ⟨held.moved same rfl written, nonces⟩
  | broadcast identity hash =>
    have impossible := sound.agrees
    simp only [Agrees, state] at impossible
  | _ => exact sound

theorem keeps_cancelBeforeSigning : KeepsSound world (cancelBeforeSigning io) := by
  unfold KeepsSound cancelBeforeSigning
  rw [wp_bind, wp_get]
  cases state : world.lane.state with
  | reserved identity =>
    have held := sound.agrees
    simp only [Agrees, state] at held
    refine keeps_move sound capacity (by simp) ?_
    rintro op status journal' found same - written nonces previous - ⟨⟩
    exact ⟨held.released same rfl written, nonces⟩
  | _ => exact sound

/-- The rejection both rejecting methods write: the held operation ends, and the lane is ready. -/
theorem keeps_rejected {held : Option B256} (hash : B256)
    (nextNonce : Nat)
    (holds : HoldsOnly world.journal world.lane.chainId world.lane.wallet identity held) :
    KeepsSound world (do
      onJournal (TransactionJournal.recordRejectedBeforeBroadcast io identity hash)
      setState (.ready nextNonce)) := by
  refine keeps_move sound capacity (by simp) ?_
  rintro op status journal' found same - written nonces previous - ⟨⟩
  exact ⟨holds.released same rfl written, nonces⟩

theorem keeps_recordRejectedBeforeBroadcast (hash : B256) :
    KeepsSound world (recordRejectedBeforeBroadcast io hash) := by
  unfold KeepsSound recordRejectedBeforeBroadcast
  rw [wp_bind, wp_get]
  have agrees := sound.agrees
  unfold Agrees at agrees
  cases state : world.lane.state with
  | signed identity expected =>
    simp only [state] at agrees ⊢
    rw [wp_bind, wp_ensure]
    exact ⟨fun _ => keeps_rejected sound capacity hash _ agrees, fun _ => sound⟩
  | recoveryRequired identity expected =>
    cases expected with
    | none => exact sound
    | some expected =>
      simp only [state] at agrees ⊢
      rw [wp_bind, wp_ensure]
      exact ⟨fun _ => keeps_rejected sound capacity hash _ agrees, fun _ => sound⟩
  | _ => exact sound

theorem keeps_recordConsumedNonceRejection (hash : B256) (nextNonce : Nat) :
    KeepsSound world (recordConsumedNonceRejection io hash nextNonce) := by
  unfold KeepsSound recordConsumedNonceRejection
  rw [wp_bind, wp_get]
  have agrees := sound.agrees
  unfold Agrees at agrees
  cases state : world.lane.state with
  | recoveryRequired identity expected =>
    cases expected with
    | none => exact sound
    | some expected =>
      simp only [state] at agrees ⊢
      rw [wp_bind, wp_ensure]
      refine ⟨fun _ => ?_, fun _ => sound⟩
      rw [wp_bind, wp_ensure]
      exact ⟨fun _ => keeps_rejected sound capacity hash nextNonce agrees, fun _ => sound⟩
  | _ => exact sound

end Calls

/-- One call keeps the invariant when it is clear and reserves no last nonce. -/
theorem Sound.after {world : LaneWorld} (sound : Sound world) (keccak256 : List UInt8 → B256)
    {call : LaneCall} (fits : call.NonceFits world) (clear : call.Clear world) :
    Sound (world.after keccak256 call) := by
  apply final_of_wp
  have capacity := clear.1
  cases call with
  | setJournalScope scope => exact keeps_setJournalScope sound scope
  | reserve io operationId purpose call =>
    simp only [LaneCall.run, wp_bind, wp_pure]
    exact keeps_reserve sound capacity keccak256 operationId purpose call fits
  | reserveWithNonce io operationId purpose call nonce =>
    simp only [LaneCall.run, wp_bind, wp_pure]
    exact keeps_reserveWithNonce sound capacity keccak256 operationId purpose call fits
  | recordSigned io transaction => exact keeps_recordSigned sound capacity transaction
  | recordBroadcast io hash => exact keeps_recordBroadcast sound capacity hash
  | recordUnknownOutcome io reason => exact keeps_recordUnknownOutcome sound capacity reason
  | recordReceipt io receipt => exact keeps_recordReceipt sound clear
  | cancelBeforeSigning io => exact keeps_cancelBeforeSigning sound capacity
  | recordRejectedBeforeBroadcast io hash =>
    exact keeps_recordRejectedBeforeBroadcast sound capacity hash
  | recordConsumedNonceRejection io hash nextNonce =>
    exact keeps_recordConsumedNonceRejection sound capacity hash nextNonce

/-! ## Whole runs -/

/-- A hydrated lane agrees with the journal it is hydrated from. -/
theorem agrees_hydrate {chainId latestNonce pendingNonce : Nat} {wallet : Address}
    {journal : TransactionJournal} {lane : NonceLane}
    (hydrated : hydrate chainId wallet latestNonce pendingNonce journal = .ok lane) :
    Agrees ⟨lane, journal⟩ := by
  simp only [hydrate, bind_eq_ok, require_eq_ok] at hydrated
  obtain ⟨_, _, _, _, _, _, _, _, hydrated⟩ := hydrated
  split at hydrated
  · rename_i free
    simp only [pure_eq_ok] at hydrated
    subst hydrated
    exact free
  · rename_i op only
    simp only [bind_eq_ok, require_eq_ok, pure_eq_ok] at hydrated
    obtain ⟨_, _, rfl⟩ := hydrated
    have listed : op ∈ journal.recoveryBlockingFor chainId wallet := by simp [only]
    have stored := (mem_recoveryBlockingFor.mp listed).1
    exact ⟨op, only, mem_values.mp stored, rfl, rfl⟩
  · cases hydrated

/-- One step of a run: any call that reserves no last nonce and is clear. -/
inductive LaneWorld.Step (keccak256 : List UInt8 → B256) : LaneWorld → LaneWorld → Prop
  | call {world} (call : LaneCall) (fits : call.NonceFits world) (clear : call.Clear world) :
      Step keccak256 world (world.after keccak256 call)

/-- From a hydrated lane, every state of every run of clear calls agrees with the journal. -/
theorem agrees_of_hydrated_run {keccak256 : List UInt8 → B256}
    {chainId latestNonce pendingNonce : Nat} {wallet : Address}
    {journal : TransactionJournal} {lane : NonceLane} {world : LaneWorld}
    (hydrated : hydrate chainId wallet latestNonce pendingNonce journal = .ok lane)
    (nonces : NoncesFit journal)
    (run : Relation.ReflTransGen (LaneWorld.Step keccak256) ⟨lane, journal⟩ world) :
    Agrees world := by
  have sound : Sound world := by
    induction run with
    | refl => exact ⟨agrees_hydrate hydrated, nonces⟩
    | tail _ step ih =>
      obtain ⟨call, fits, clear⟩ := step
      exact ih.after keccak256 fits clear
  exact sound.agrees

/-- A receipt that is accepted while the lane holds an unsigned operation always breaks the
agreement: the lane becomes ready and the operation stays in the journal and blocks recovery. -/
theorem recordReceipt_breaks_agreement {world : LaneWorld} {io : AppendLog.Io}
    {receipt : TransactionReceipt} (agrees : Agrees world)
    (unsigned : world.lane.state.holdsUnsigned = true) :
    ∃ held, (world.lane.state = .reserved held.intent.identity ∨
        world.lane.state = .recoveryRequired held.intent.identity none) ∧
      held ∈ world.journal.recoveryBlockingFor world.lane.chainId world.lane.wallet ∧
      wp (recordReceipt io receipt) (fun _ after =>
        (∃ nextNonce, after.lane.state = .ready nextNonce) ∧
          held ∈ after.journal.recoveryBlockingFor after.lane.chainId after.lane.wallet ∧
          ¬ Agrees after) (fun _ _ => True) world := by
  have holding : ∃ identity, (world.lane.state = .reserved identity ∨
      world.lane.state = .recoveryRequired identity none) ∧
      HoldsOnly world.journal world.lane.chainId world.lane.wallet identity none := by
    unfold Agrees at agrees
    unfold NonceLaneState.holdsUnsigned at unsigned
    split at unsigned
    case h_3 => cases unsigned
    all_goals
      rename_i identity state
      simp only [state] at agrees
      exact ⟨identity, by simp [state], agrees⟩
  obtain ⟨_, holds, held, only, _, rfl, noHash⟩ := holding
  have listed : held ∈ world.journal.recoveryBlockingFor world.lane.chainId
      world.lane.wallet := by simp [only]
  obtain ⟨stored, blocks⟩ := mem_recoveryBlockingFor.mp listed
  refine ⟨held, holds, listed, ?_⟩
  unfold recordReceipt
  rw [wp_bind, wp_get, wp_bind, wp_orFail]
  refine ⟨?_, fun _ => trivial⟩
  rintro ⟨identity, hash⟩ target
  simp only [wp_bind, wp_ensure, wp_orFail, wp_setState]
  refine ⟨fun _ => ⟨fun _ => ?_, fun _ => trivial⟩, fun _ => trivial⟩
  apply wp_move (fun _ _ _ => trivial)
  · exact not_intent_of_mined
  · exact fun _ _ _ => trivial
  · intro op status journal' found same move written
    refine ⟨?_, fun _ => trivial⟩
    intro nextNonce _
    obtain ⟨next, isReady⟩ := afterReceipt_ready nextNonce world.lane.state
    -- the moved operation has a transaction hash and the held one has none
    have ne : op.operationId ≠ held.operationId := by
      intro sameId
      have eq := eq_of_mem_values (mem_values_of_get? found) stored sameId
      have awaits := move.of_mined.1
      rw [eq] at awaits
      generalize held.status = heldStatus at awaits noHash
      cases heldStatus <;> simp_all [JournalStatus.awaitsReceipt, JournalStatus.transactionHash]
    have kept : held ∈ journal'.recoveryBlockingFor world.lane.chainId world.lane.wallet := by
      refine mem_recoveryBlockingFor.mpr ⟨?_, blocks⟩
      rw [written]
      exact mem_values_put.mpr (Or.inr ⟨ne, stored⟩)
    refine ⟨⟨next, isReady⟩, kept, fun agreesAfter => ?_⟩
    simp only [Agrees, isReady] at agreesAfter
    rw [agreesAfter] at kept
    cases kept

/-! ## Two operations of one wallet -/

/-- An empty journal file, opened. -/
def emptyJournal : TransactionJournal :=
  ⟨empty, 0, false, ⟨[], false⟩⟩

/-- A disk that syncs a record of ordinary length. -/
def syncedIo : AppendLog.Io := ⟨some 1, some 512, .synced⟩

/-- The lane hydrated from the empty journal at nonce 7. -/
def freshWorld : LaneWorld := ⟨⟨480, 0x11, .ready 7, none⟩, emptyJournal⟩

/-- An operation is reserved, signed and broadcast. -/
def firstOperation : List LaneCall :=
  [.reserve syncedIo "rebalance:wld:1" "rebalance_wallet_to_binance" ⟨0x22, 0, []⟩,
    .recordSigned syncedIo ⟨480, 7, 0xa1⟩, .recordBroadcast syncedIo 0xa1]

/-- The reservation of the next operation. -/
def secondReservation : LaneCall :=
  .reserve syncedIo "rebalance:wld:2" "rebalance_wallet_to_binance" ⟨0x22, 0, []⟩

/-- The receipt of the first operation's transaction. -/
def firstReceipt : LaneCall :=
  .recordReceipt syncedIo ⟨0xa1, 12345, 1⟩

/-- The world after the first `n` calls when the receipt comes before the next reservation. -/
def receiptFirst (n : Nat) : LaneWorld :=
  ((firstOperation ++ [firstReceipt, secondReservation]).take n).foldl
    (LaneWorld.after fun _ => 0) freshWorld

theorem agrees_when_receipt_comes_first : Agrees (receiptFirst 5) := by
  have hydrated : hydrate 480 0x11 7 7 emptyJournal = .ok freshWorld.lane := rfl
  have nonces : NoncesFit emptyJournal := by
    intro operation mem
    simp [emptyJournal] at mem
  have reserved : LaneWorld.Step (fun _ => 0) (receiptFirst 0) (receiptFirst 1) := by
    refine .call _ ?_ (.of_no_receipt (by decide) fun _ _ => LaneCall.noConfusion)
    rintro nextNonce ready
    cases ready
    decide
  have signed : LaneWorld.Step (fun _ => 0) (receiptFirst 1) (receiptFirst 2) :=
    .call (.recordSigned ..) trivial (.of_no_receipt (by decide) fun _ _ => LaneCall.noConfusion)
  have broadcast : LaneWorld.Step (fun _ => 0) (receiptFirst 2) (receiptFirst 3) :=
    .call (.recordBroadcast ..) trivial
      (.of_no_receipt (by decide) fun _ _ => LaneCall.noConfusion)
  have received : LaneWorld.Step (fun _ => 0) (receiptFirst 3) (receiptFirst 4) :=
    .call firstReceipt trivial (.of_not_unsigned (by decide) (by decide))
  have reservedAgain : LaneWorld.Step (fun _ => 0) (receiptFirst 4) (receiptFirst 5) := by
    refine .call _ ?_ (.of_no_receipt (by decide) fun _ _ => LaneCall.noConfusion)
    rintro nextNonce ready
    cases ready
    decide
  exact agrees_of_hydrated_run hydrated nonces
    ((((Relation.ReflTransGen.single reserved).tail signed).tail broadcast).tail received
      |>.tail reservedAgain)

theorem receipt_drops_reservation :
    TransactionJournal.openFile ⟨[], false⟩ = .ok emptyJournal ∧
      hydrate 480 0x11 7 7 emptyJournal = .ok freshWorld.lane ∧
      ¬ Agrees ((firstOperation ++ [secondReservation, firstReceipt]).foldl
        (LaneWorld.after fun _ => 0) freshWorld) := by
  refine ⟨rfl, rfl, ?_⟩
  intro agrees
  have lane : ((firstOperation ++ [secondReservation, firstReceipt]).foldl
      (LaneWorld.after fun _ => 0) freshWorld).lane = ⟨480, 0x11, .ready 8, none⟩ := by decide
  have blocking : (((firstOperation ++ [secondReservation, firstReceipt]).foldl
      (LaneWorld.after fun _ => 0) freshWorld).journal.recoveryBlockingFor 480 0x11).length =
      1 := by decide
  simp only [Agrees, lane] at agrees
  rw [agrees] at blocking
  cases blocking

/-- The first operation is broadcast and the second one reserved. -/
def secondReserved : LaneWorld :=
  (firstOperation ++ [secondReservation]).foldl (LaneWorld.after fun _ => 0) freshWorld

theorem secondReserved_broken : Agrees secondReserved ∧ ∃ broken,
    (recordReceipt syncedIo ⟨0xa1, 12345, 1⟩).exec secondReserved = (.ok (), broken) ∧
      (∃ nextNonce, broken.lane.state = .ready nextNonce) ∧
      broken.journal.recoveryBlockingFor broken.lane.chainId broken.lane.wallet ≠ [] ∧
      ¬ Agrees broken := by
  have agrees : Agrees secondReserved := ⟨_, rfl, rfl, rfl, rfl⟩
  have ran : (recordReceipt syncedIo ⟨0xa1, 12345, 1⟩).exec secondReserved =
      (.ok (), secondReserved.after (fun _ => 0) firstReceipt) := rfl
  obtain ⟨held, _, _, breaks⟩ :=
    @recordReceipt_breaks_agreement secondReserved syncedIo ⟨0xa1, 12345, 1⟩ agrees (by decide)
  obtain ⟨ready, kept, disagrees⟩ := returned_of_wp breaks ran
  exact ⟨agrees, _, ran, ready, List.ne_nil_of_mem kept, disagrees⟩

end PolyBot.Wallet
