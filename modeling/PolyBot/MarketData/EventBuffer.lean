import PolyBot.Dex.Settlement

/-!
# The canonical event stream

The node sends heads and logs on two subscriptions, and nothing orders one against the other.  The
buffer holds a log back until the head of its block has come, and remembers the last heads for the
logs that come after theirs.

* `Arrivals`: heads in chain order, with the logs around them, and room for what they release.
* `Emits`: what one notification sends; `Buffered.accept`: it is what the buffer sends.
* `Ordered`: what has been sent after a history of notifications; `Ordered.step` keeps it.
* `run_of_arrivals`: every run within the capacities is taken whole and sent in order.
-/

namespace PolyBot.MarketData

open PolyBot.Dex
open List hiding head?

/-- A log, with the time at which it was received. -/
structure ReceivedLog where
  log : ChainLog
  receivedAt : Nat
  deriving DecidableEq

/-- A head with its timestamp, and the time at which it was received. -/
structure ReceivedHead where
  head : CanonicalBlock
  timestamp : Nat
  receivedAt : Nat
  deriving DecidableEq

inductive DexStreamEvent where
  | log (received : ReceivedLog) (blockTimestamp : Nat)
  | head (received : ReceivedHead)
  deriving DecidableEq

namespace DexStreamEvent

def head? : DexStreamEvent → Option ReceivedHead
  | head received => some received
  | log .. => none

def log? : DexStreamEvent → Option ReceivedLog
  | log received _ => some received
  | head _ => none

end DexStreamEvent

open DexStreamEvent

/-- The sending end of the event channel: the places left in it, the error of a send that finds
none, and what has been sent. -/
structure Sender where
  room : Nat
  refusal : String
  sent : List DexStreamEvent

def sendEvent (sender : Sender) (event : DexStreamEvent) : Except String Sender := do
  require (0 < sender.room) ("critical DEX event channel unavailable: " ++ sender.refusal)
  return { sender with room := sender.room - 1, sent := sender.sent ++ [event] }

/-- The original keeps the pending logs in a map of vectors, one for each block hash.  A log is filed
under its own hash, so that the vector of a hash is the logs with it, in their order of arrival. -/
structure CanonicalEventBuffer where
  heads : List (B256 × Nat × Nat)
  pendingLogs : List ReceivedLog
  pendingCount : Nat
  maximumPending : Nat

namespace CanonicalEventBuffer

def new (maximumPending : Nat) : CanonicalEventBuffer :=
  ⟨[], [], 0, maximumPending⟩

def acceptLog (buffer : CanonicalEventBuffer) (received : ReceivedLog) (sender : Sender) :
    Except String (CanonicalEventBuffer × Sender) :=
  match buffer.heads.find? fun (hash, _, _) => hash = received.log.blockHash with
  | some (_, _, timestamp) => do
    let sender ← sendEvent sender (.log received timestamp)
    return (buffer, sender)
  | none => do
    require (buffer.pendingCount < buffer.maximumPending) "canonical DEX log buffer is full"
    return ({ buffer with
      pendingLogs := buffer.pendingLogs ++ [received]
      pendingCount := buffer.pendingCount + 1 }, sender)

/-- The last 128 heads. -/
def lastHeads (heads : List (B256 × Nat × Nat)) : List (B256 × Nat × Nat) :=
  heads.drop (heads.length - 128)

/-- The buffer without the pending logs of a block, and those logs. -/
def release (buffer : CanonicalEventBuffer) (hash : B256) :
    List ReceivedLog × CanonicalEventBuffer :=
  let logs := buffer.pendingLogs.filter fun received => received.log.blockHash = hash
  (logs, { buffer with
    pendingLogs := buffer.pendingLogs.filter fun received => received.log.blockHash ≠ hash
    pendingCount := buffer.pendingCount - logs.length })

variable (sort : List ReceivedLog → List ReceivedLog)

/-- `sort` is the unstable sort by position of the standard library. -/
def acceptHead (buffer : CanonicalEventBuffer) (received : ReceivedHead) (sender : Sender) :
    Except String (CanonicalEventBuffer × Sender) := do
  let sender ← sendEvent sender (.head received)
  let heads := lastHeads (buffer.heads ++
    [(received.head.hash, received.head.number, received.timestamp)])
  let (logs, buffer) := { buffer with heads := heads }.release received.head.hash
  let sender ← (sort logs).foldlM (fun sender log => sendEvent sender (.log log received.timestamp))
    sender
  return (buffer, sender)

end CanonicalEventBuffer

open CanonicalEventBuffer

/-- What the node sends on the two subscriptions. -/
inductive Notification where
  | log (received : ReceivedLog)
  | head (received : ReceivedHead)
  deriving DecidableEq

namespace Notification

def head? : Notification → Option ReceivedHead
  | head received => some received
  | log _ => none

def log? : Notification → Option ReceivedLog
  | log received => some received
  | head _ => none

end Notification

def CanonicalEventBuffer.accept (sort : List ReceivedLog → List ReceivedLog)
    (buffer : CanonicalEventBuffer) (sender : Sender) :
    Notification → Except String (CanonicalEventBuffer × Sender)
  | .log received => buffer.acceptLog received sender
  | .head received => buffer.acceptHead sort received sender

/-! ## Runs -/

/-- A notification, and what the reader of the channel has left free when it comes. -/
structure Arrival where
  notification : Notification
  room : Nat
  refusal : String

/-- One connection: its buffer and all that it has sent. -/
structure Stream where
  buffer : CanonicalEventBuffer
  sent : List DexStreamEvent

/-- An error ends the connection, and the buffer with it. -/
def Stream.forward (sort : List ReceivedLog → List ReceivedLog) (stream : Stream)
    (arrival : Arrival) : Except String Stream := do
  let (buffer, sender) ← stream.buffer.accept sort ⟨arrival.room, arrival.refusal, stream.sent⟩
    arrival.notification
  return ⟨buffer, sender.sent⟩

def Stream.run (sort : List ReceivedLog → List ReceivedLog) (maximumPending : Nat)
    (arrivals : List Arrival) : Except String Stream :=
  arrivals.foldlM (Stream.forward sort) ⟨.new maximumPending, []⟩

/-! ## What arrives -/

def heads (history : List Notification) : List ReceivedHead :=
  history.filterMap Notification.head?

def logs (history : List Notification) : List ReceivedLog :=
  history.filterMap Notification.log?

/-- The head of a block has arrived. -/
def isHeaded (history : List Notification) (hash : B256) : Bool :=
  (heads history).any fun received => received.head.hash = hash

/-- The logs whose head has not arrived. -/
def waiting (history : List Notification) : List ReceivedLog :=
  (logs history).filter fun received => !isHeaded history received.log.blockHash

/-- The logs of a block that have arrived. -/
def logsOf (history : List Notification) (hash : B256) : List ReceivedLog :=
  (logs history).filter fun received => received.log.blockHash = hash

/-- A head is the child of the last one and comes once; a log comes before its head or at most 127
heads after it.  The number that a log carries is the number of its block. -/
def Admits (history : List Notification) : Notification → Prop
  | .head received =>
    (∀ last, (heads history).getLast? = some last →
      received.head.number = last.head.number + 1 ∧ received.head.parentHash = last.head.hash) ∧
    isHeaded history received.head.hash = false ∧
    ∀ earlier ∈ logsOf history received.head.hash, earlier.log.blockNumber = received.head.number
  | .log received =>
    ∀ arrived ∈ heads history, arrived.head.hash = received.log.blockHash →
      received.log.blockNumber = arrived.head.number ∧
      ∃ older recent, heads history = older ++ arrived :: recent ∧ recent.length ≤ 127

/-- The channel takes all that a notification releases, and the buffer a log that it holds back. -/
def Fits (maximumPending room : Nat) (history : List Notification) : Notification → Prop
  | .head received => (logsOf history received.head.hash).length < room
  | .log received =>
    if isHeaded history received.log.blockHash then 0 < room
    else (waiting history).length < maximumPending

/-- The notifications of a run. -/
def history (arrivals : List Arrival) : List Notification :=
  arrivals.map Arrival.notification

/-- Heads in chain order and their logs, with channel and buffer never exceeded. -/
inductive Arrivals (maximumPending : Nat) : List Arrival → Prop where
  | nil : Arrivals maximumPending []
  | next {arrivals : List Arrival} {arrival : Arrival} (before : Arrivals maximumPending arrivals)
      (admits : Admits (history arrivals) arrival.notification)
      (fits : Fits maximumPending arrival.room (history arrivals) arrival.notification) :
      Arrivals maximumPending (arrivals ++ [arrival])

/-! ## What one notification sends -/

/-- No log stands before one with a smaller position. -/
def InPositionOrder (released : List ReceivedLog) : Prop :=
  released.Pairwise fun first second => ¬second.log.position < first.log.position

inductive Emits (history : List Notification) : Notification → List DexStreamEvent → Prop where
  | head {received : ReceivedHead} {released : List ReceivedLog}
      (all : released.Perm (logsOf history received.head.hash))
      (ordered : InPositionOrder released) :
      Emits history (.head received) (.head received :: released.map (.log · received.timestamp))
  | headed {received : ReceivedLog} {arrived : ReceivedHead} (known : arrived ∈ heads history)
      (same : arrived.head.hash = received.log.blockHash) :
      Emits history (.log received) [.log received arrived.timestamp]
  | held {received : ReceivedLog} (unknown : isHeaded history received.log.blockHash = false) :
      Emits history (.log received) []

/-- The buffer after a history of notifications. -/
structure Buffered (maximumPending : Nat) (history : List Notification)
    (buffer : CanonicalEventBuffer) : Prop where
  maximum : buffer.maximumPending = maximumPending
  heads : buffer.heads = lastHeads ((heads history).map fun received =>
    (received.head.hash, received.head.number, received.timestamp))
  pending : buffer.pendingLogs = waiting history
  count : buffer.pendingCount = buffer.pendingLogs.length

/-- What the unstable sort is known to do. -/
structure SortsByPosition (sort : List ReceivedLog → List ReceivedLog) : Prop where
  perm : ∀ received, (sort received).Perm received
  ordered : ∀ received, InPositionOrder (sort received)

section Histories

variable {past : List Notification} {hash : B256} {received : ReceivedLog} {arrived : ReceivedHead}

@[simp]
theorem heads_append_head : heads (past ++ [.head arrived]) = heads past ++ [arrived] := by
  simp [heads, Notification.head?]

@[simp]
theorem heads_append_log : heads (past ++ [.log received]) = heads past := by
  simp [heads, Notification.head?]

@[simp]
theorem logs_append_head : logs (past ++ [.head arrived]) = logs past := by
  simp [logs, Notification.log?]

@[simp]
theorem logs_append_log : logs (past ++ [.log received]) = logs past ++ [received] := by
  simp [logs, Notification.log?]

@[simp]
theorem isHeaded_append_log : isHeaded (past ++ [.log received]) hash = isHeaded past hash := by
  simp [isHeaded]

@[simp]
theorem isHeaded_append_head : isHeaded (past ++ [.head arrived]) hash =
    (isHeaded past hash || decide (arrived.head.hash = hash)) := by
  simp [isHeaded]

theorem isHeaded_eq_true :
    isHeaded past hash = true ↔ ∃ arrived ∈ heads past, arrived.head.hash = hash := by
  simp [isHeaded]

/-- A log whose head has not arrived is waiting. -/
theorem filter_waiting (fresh : isHeaded past hash = false) :
    ((waiting past).filter fun received => received.log.blockHash = hash) = logsOf past hash := by
  rw [waiting, logsOf, filter_filter]
  refine filter_congr fun received _ => ?_
  by_cases same : received.log.blockHash = hash
  · simp [same, fresh]
  · simp [same]

/-- Its head takes a log out of the waiting ones. -/
theorem waiting_append_head : waiting (past ++ [.head arrived]) =
    (waiting past).filter fun received => received.log.blockHash ≠ arrived.head.hash := by
  rw [waiting, waiting, filter_filter, logs_append_head]
  refine filter_congr fun received _ => ?_
  by_cases same : arrived.head.hash = received.log.blockHash
  · simp [same]
  · simp [same, Ne.symm same]

theorem waiting_append_log : waiting (past ++ [.log received]) =
    waiting past ++ if isHeaded past received.log.blockHash then [] else [received] := by
  simp only [waiting, logs_append_log, isHeaded_append_log, filter_append]
  cases known : isHeaded past received.log.blockHash <;> simp [known]

end Histories

/-! ## The buffer sends what a notification emits -/

section Step

variable {sort : List ReceivedLog → List ReceivedLog} {maximumPending : Nat}
  {past : List Notification} {buffer : CanonicalEventBuffer} {sender : Sender}

theorem sendEvent_of_room (room : 0 < sender.room) (event : DexStreamEvent) :
    sendEvent sender event =
      .ok { sender with room := sender.room - 1, sent := sender.sent ++ [event] } := by
  rw [sendEvent, require_of room]
  rfl

theorem sendLogs_of_room {released : List ReceivedLog} {timestamp : Nat}
    (room : released.length ≤ sender.room) :
    ∃ after, released.foldlM (fun sender log => sendEvent sender (.log log timestamp)) sender =
      .ok after ∧ after.sent = sender.sent ++ released.map (.log · timestamp) := by
  induction released generalizing sender with
  | nil => exact ⟨sender, rfl, (append_nil _).symm⟩
  | cons log released ih =>
    rw [length_cons] at room
    obtain ⟨after, folded, sent⟩ := @ih { sender with
      room := sender.room - 1, sent := sender.sent ++ [.log log timestamp] } (Nat.le_sub_one_of_lt room)
    refine ⟨after, ?_, ?_⟩
    · rw [foldlM_cons, sendEvent_of_room (by omega), ok_bind, folded]
    · rw [sent, map_cons, append_assoc, singleton_append]

theorem lastHeads_lastHeads_append (heads : List (B256 × Nat × Nat)) (head : B256 × Nat × Nat) :
    lastHeads (lastHeads heads ++ [head]) =
      lastHeads (heads ++ [head]) := by
  have dropped : heads.length - 128 + (heads.length - (heads.length - 128) + 1 - 128) =
      heads.length + 1 - 128 := by omega
  simp only [lastHeads, length_append, length_drop,
    length_singleton]
  rw [drop_append_of_le_length (by rw [length_drop]; omega), drop_drop, dropped,
    drop_append_of_le_length (by omega)]

/-- A head that is among the last 128 is found. -/
theorem mem_lastHeads {entries older recent : List (B256 × Nat × Nat)} {entry : B256 × Nat × Nat}
    (split : entries = older ++ entry :: recent) (near : recent.length ≤ 127) :
    entry ∈ lastHeads entries := by
  rw [split, lastHeads, length_append, length_cons,
    drop_append_of_le_length (by omega)]
  exact mem_append_right _ mem_cons_self

namespace Buffered

variable (buffered : Buffered maximumPending past buffer)
include buffered

theorem acceptHead (sorts : SortsByPosition sort) {received : ReceivedHead}
    (admits : Admits past (.head received))
    (fits : Fits maximumPending sender.room past (.head received)) :
    ∃ next after events, buffer.acceptHead sort received sender = .ok (next, after) ∧
      Buffered maximumPending (past ++ [.head received]) next ∧
      Emits past (.head received) events ∧ after.sent = sender.sent ++ events := by
  obtain ⟨-, fresh, -⟩ := admits
  have room : (logsOf past received.head.hash).length < sender.room := fits
  have released : buffer.pendingLogs.filter (fun log => log.log.blockHash = received.head.hash) =
      logsOf past received.head.hash := by
    rw [buffered.pending, filter_waiting fresh]
  have perm := sorts.perm (logsOf past received.head.hash)
  obtain ⟨after, folded, sent⟩ := @sendLogs_of_room
    { sender with room := sender.room - 1, sent := sender.sent ++ [.head received] }
    (sort (logsOf past received.head.hash)) received.timestamp
    (by rw [perm.length_eq]; exact Nat.le_sub_one_of_lt room)
  have ran : buffer.acceptHead sort received sender = .ok
      ({ buffer with
        heads := lastHeads (buffer.heads ++
          [(received.head.hash, received.head.number, received.timestamp)])
        pendingLogs := buffer.pendingLogs.filter fun log => log.log.blockHash ≠ received.head.hash
        pendingCount := buffer.pendingCount - (logsOf past received.head.hash).length },
        after) := by
    simp only [CanonicalEventBuffer.acceptHead, sendEvent_of_room (Nat.zero_lt_of_lt room), ok_bind,
      CanonicalEventBuffer.release, released, folded]
    rfl
  refine ⟨_, _, _, ran, ?_, .head perm (sorts.ordered _), ?_⟩
  · refine ⟨buffered.maximum, ?_, ?_, ?_⟩
    · simp only [buffered.heads, lastHeads_lastHeads_append, heads_append_head, map_append,
        map_cons, map_nil]
    · rw [waiting_append_head, ← buffered.pending]
    · have split := (filter_append_perm
        (fun log => decide (log.log.blockHash = received.head.hash)) buffer.pendingLogs).length_eq
      rw [released, length_append] at split
      simp only [buffered.count, ne_eq, decide_not]
      omega
  · rw [sent, append_assoc, singleton_append]

theorem acceptLog {received : ReceivedLog} (admits : Admits past (.log received))
    (fits : Fits maximumPending sender.room past (.log received)) :
    ∃ next after events, buffer.acceptLog received sender = .ok (next, after) ∧
      Buffered maximumPending (past ++ [.log received]) next ∧
      Emits past (.log received) events ∧ after.sent = sender.sent ++ events := by
  cases found : buffer.heads.find? fun (hash, _, _) => hash = received.log.blockHash with
  | some entry =>
    obtain ⟨hash, number, timestamp⟩ := entry
    have same : hash = received.log.blockHash := by simpa using find?_some found
    have mem := mem_of_find?_eq_some found
    rw [buffered.heads] at mem
    obtain ⟨arrived, known, entry⟩ := mem_map.mp (mem_of_mem_drop mem)
    cases entry
    have headed : isHeaded past received.log.blockHash = true :=
      isHeaded_eq_true.mpr ⟨arrived, known, same⟩
    have room : 0 < sender.room := by simpa [Fits, headed] using fits
    have ran : buffer.acceptLog received sender = .ok (buffer, { sender with
        room := sender.room - 1, sent := sender.sent ++ [.log received arrived.timestamp] }) := by
      simp only [CanonicalEventBuffer.acceptLog, found, sendEvent_of_room room, ok_bind]
      rfl
    refine ⟨_, _, _, ran, ⟨buffered.maximum, ?_, ?_, buffered.count⟩, .headed known same, rfl⟩
    · rw [buffered.heads, heads_append_log]
    · rw [buffered.pending, waiting_append_log, if_pos headed, append_nil]
  | none =>
    have unknown : isHeaded past received.log.blockHash = false := by
      rw [Bool.eq_false_iff, Ne, isHeaded_eq_true]
      rintro ⟨arrived, known, same⟩
      obtain ⟨-, older, recent, split, near⟩ := admits arrived known same
      have kept : (arrived.head.hash, arrived.head.number, arrived.timestamp) ∈ buffer.heads := by
        rw [buffered.heads, split, map_append, map_cons]
        exact mem_lastHeads rfl (by rwa [length_map])
      simpa [same] using find?_eq_none.mp found _ kept
    have room : (waiting past).length < maximumPending := by simpa [Fits, unknown] using fits
    have ran : buffer.acceptLog received sender = .ok ({ buffer with
        pendingLogs := buffer.pendingLogs ++ [received]
        pendingCount := buffer.pendingCount + 1 }, sender) := by
      rw [← buffered.pending, ← buffered.count, ← buffered.maximum] at room
      simp only [CanonicalEventBuffer.acceptLog, found, require_of room, ok_bind]
      rfl
    refine ⟨_, _, _, ran, ⟨buffered.maximum, ?_, ?_, ?_⟩, .held unknown, (append_nil _).symm⟩
    · rw [buffered.heads, heads_append_log]
    · rw [buffered.pending, waiting_append_log, unknown]
      rfl
    · simp [buffered.count]

/-- A notification that is admitted and fits is taken, and sends what it emits. -/
theorem accept (sorts : SortsByPosition sort) {notification : Notification}
    (admits : Admits past notification) (fits : Fits maximumPending sender.room past notification) :
    ∃ next after events, buffer.accept sort sender notification = .ok (next, after) ∧
      Buffered maximumPending (past ++ [notification]) next ∧
      Emits past notification events ∧ after.sent = sender.sent ++ events := by
  cases notification with
  | head received => exact buffered.acceptHead sorts admits fits
  | log received => exact buffered.acceptLog admits fits

end Buffered

end Step

/-! ## What a history sends -/

/-- The head of a log with the timestamp it is sent with. -/
def Heads (arrived : ReceivedHead) (received : ReceivedLog) (timestamp : Nat) : Prop :=
  arrived.head.hash = received.log.blockHash ∧ arrived.head.number = received.log.blockNumber ∧
    arrived.timestamp = timestamp

/-- A head is sent with the logs directly after it that came before it, in the order of their
positions. -/
def SentWithLogs (sent : List DexStreamEvent) (earlier : List Notification)
    (arrived : ReceivedHead) : Prop :=
  ∃ before released rest,
    sent = before ++ .head arrived :: released.map (.log · arrived.timestamp) ++ rest ∧
    released.Perm (logsOf earlier arrived.head.hash) ∧ InPositionOrder released

/-- The stream after a history: the heads in their order, and the logs of the heads that have come,
each once and after its head. -/
structure Ordered (past : List Notification) (sent : List DexStreamEvent) : Prop where
  heads : sent.filterMap head? = heads past
  logs : (sent.filterMap log?).Perm
    ((logs past).filter fun received => isHeaded past received.log.blockHash)
  after : ∀ before received timestamp rest, sent = before ++ .log received timestamp :: rest →
    ∃ arrived, .head arrived ∈ before ∧ Heads arrived received timestamp
  released : ∀ earlier arrived later, past = earlier ++ .head arrived :: later →
    SentWithLogs sent earlier arrived

/-- Where an element of two lists in a row stands. -/
theorem append_eq_append_cons {α : Type} {first second before rest : List α} {a : α}
    (split : first ++ second = before ++ a :: rest) :
    (∃ middle, first = before ++ a :: middle ∧ rest = middle ++ second) ∨
      ∃ middle, before = first ++ middle ∧ second = middle ++ a :: rest := by
  rcases append_eq_append_iff.mp split with ⟨middle, ahead, behind⟩ | ⟨middle, ahead, behind⟩
  · exact .inr ⟨middle, ahead, behind⟩
  · cases middle with
    | nil => exact .inr ⟨[], by simpa using ahead.symm, by simpa using behind.symm⟩
    | cons first middle =>
      cases behind
      exact .inl ⟨middle, ahead, rfl⟩

variable {arrived : ReceivedHead} {past : List Notification}

theorem mem_sent_of_mem_heads {sent : List DexStreamEvent}
    (same : sent.filterMap head? = heads past) (known : arrived ∈ heads past) :
    .head arrived ∈ sent := by
  rw [← same, mem_filterMap] at known
  obtain ⟨event, mem, is⟩ := known
  cases event with
  | log received timestamp => cases is
  | head received =>
    cases is
    exact mem

/-- The logs of the heads that have come, when one more comes. -/
theorem filter_isHeaded_append_head (fresh : isHeaded past arrived.head.hash = false) :
    ((logs past).filter fun received => isHeaded past received.log.blockHash) ++
      logsOf past arrived.head.hash |>.Perm
    ((logs past).filter fun received =>
      isHeaded (past ++ [.head arrived]) received.log.blockHash) := by
  have split := filter_append_perm (fun received => isHeaded past received.log.blockHash)
    ((logs past).filter fun received =>
      isHeaded (past ++ [.head arrived]) received.log.blockHash)
  rw [filter_filter, filter_filter] at split
  refine List.Perm.trans (.of_eq ?_) split
  congr 1
  · refine filter_congr fun received _ => ?_
    cases known : isHeaded past received.log.blockHash <;> simp [known]
  · refine filter_congr fun received _ => ?_
    by_cases same : received.log.blockHash = arrived.head.hash
    · simp [same, fresh]
    · simp [same, Ne.symm same]

namespace Ordered

variable {past : List Notification} {sent events : List DexStreamEvent}

theorem nil : Ordered [] [] where
  heads := rfl
  logs := .nil
  after := fun before _ _ _ split => by simp at split
  released := fun earlier _ _ split => by simp at split

theorem filterMap_log?_logs (released : List ReceivedLog) (timestamp : Nat) :
    (released.map (log · timestamp)).filterMap log? = released := by
  simp [filterMap_map, Function.comp_def, log?]

section

variable (ordered : Ordered past sent)
include ordered

variable {arrived : ReceivedHead} {earlier : List Notification}

theorem released_append {middle : List Notification}
    (inside : past = earlier ++ .head arrived :: middle) :
    SentWithLogs (sent ++ events) earlier arrived := by
  obtain ⟨before, released, rest, split, found⟩ := ordered.released earlier arrived middle inside
  exact ⟨before, released, rest ++ events, by rw [split, append_assoc], found⟩

theorem released_log {received : ReceivedLog} {later : List Notification}
    (split : past ++ [.log received] = earlier ++ .head arrived :: later) :
    SentWithLogs (sent ++ events) earlier arrived := by
  rcases append_eq_append_cons split with ⟨middle, inside, -⟩ | ⟨middle, -, new⟩
  · exact ordered.released_append inside
  · cases middle with
    | nil => cases new
    | cons first middle => simp at new

theorem step_head {received : ReceivedHead} (admits : Admits past (.head received))
    {released : List ReceivedLog} (all : released.Perm (logsOf past received.head.hash))
    (positions : InPositionOrder released) :
    Ordered (past ++ [.head received])
      (sent ++ .head received :: released.map (.log · received.timestamp)) := by
  obtain ⟨-, fresh, numbered⟩ := admits
  refine ⟨?_, ?_, ?_, ?_⟩
  · simp [ordered.heads, head?]
  · rw [filterMap_append, filterMap_cons_none rfl, filterMap_log?_logs, logs_append_head]
    exact (ordered.logs.append all).trans (filter_isHeaded_append_head fresh)
  · intro before log timestamp rest split
    rcases append_eq_append_cons split with ⟨middle, inside, -⟩ | ⟨middle, rfl, new⟩
    · exact ordered.after before log timestamp middle inside
    · cases middle with
      | nil => cases new
      | cons first middle =>
        obtain ⟨rfl, others⟩ := cons.inj new
        have mem : DexStreamEvent.log log timestamp ∈ released.map (.log · received.timestamp) :=
          others ▸ mem_append_right _ mem_cons_self
        obtain ⟨_, chosen, same⟩ := mem_map.mp mem
        cases same
        have of := all.mem_iff.mp chosen
        have hash := of_decide_eq_true (mem_filter.mp of).2
        exact ⟨received, by simp, hash.symm, (numbered _ of).symm, rfl⟩
  · intro earlier arrived later split
    rcases append_eq_append_cons split with ⟨middle, inside, -⟩ | ⟨middle, rfl, new⟩
    · exact ordered.released_append inside
    · cases middle with
      | nil =>
        cases new
        exact ⟨sent, released, [], by simp, by rwa [append_nil], positions⟩
      | cons first middle => simp at new

/-- What one notification sends keeps the order. -/
theorem step {notification : Notification} (admits : Admits past notification)
    (emits : Emits past notification events) :
    Ordered (past ++ [notification]) (sent ++ events) := by
  cases emits with
  | head all positions => exact ordered.step_head admits all positions
  | @headed received arrived known same =>
    have headed := isHeaded_eq_true.mpr ⟨arrived, known, same⟩
    refine ⟨?_, ?_, ?_, fun _ _ _ split => ordered.released_log split⟩
    · simp [ordered.heads, head?]
    · simp only [filterMap_append, logs_append_log, isHeaded_append_log, filter_append]
      refine ordered.logs.append (.of_eq ?_)
      simp [log?, headed]
    · intro before log timestamp rest split
      rcases append_eq_append_cons split with ⟨middle, inside, -⟩ | ⟨middle, rfl, new⟩
      · exact ordered.after before log timestamp middle inside
      · cases middle with
        | nil =>
          cases new
          exact ⟨arrived, by simpa using mem_sent_of_mem_heads ordered.heads known, same,
            ((admits arrived known same).1).symm, rfl⟩
        | cons first middle => simp at new
  | held unknown =>
    refine ⟨?_, ?_, ?_, fun _ _ _ split => ordered.released_log split⟩
    · rw [append_nil, ordered.heads, heads_append_log]
    · simpa [unknown] using ordered.logs
    · rw [append_nil]
      exact ordered.after

end

end Ordered

/-- Every run takes all its notifications, and sends them in order. -/
theorem run_of_arrivals {sort : List ReceivedLog → List ReceivedLog}
    (sorts : SortsByPosition sort) {maximumPending : Nat} {arrivals : List Arrival}
    (arrive : Arrivals maximumPending arrivals) :
    ∃ stream, Stream.run sort maximumPending arrivals = .ok stream ∧
      Buffered maximumPending (history arrivals) stream.buffer ∧
      Ordered (history arrivals) stream.sent := by
  induction arrive with
  | nil => exact ⟨_, rfl, ⟨rfl, rfl, rfl, rfl⟩, .nil⟩
  | @next arrivals arrival _ admits fits ih =>
    obtain ⟨stream, ran, buffered, ordered⟩ := ih
    obtain ⟨next, after, events, accepted, kept, emits, sent⟩ :=
      @Buffered.accept sort maximumPending (history arrivals) stream.buffer
        ⟨arrival.room, arrival.refusal, stream.sent⟩ buffered sorts _ admits fits
    have grown : history (arrivals ++ [arrival]) = history arrivals ++ [arrival.notification] := by
      simp [history]
    refine ⟨⟨next, after.sent⟩, ?_, ?_, ?_⟩
    · rw [Stream.run, foldlM_append, ← Stream.run, ran, ok_bind, foldlM_cons,
        Stream.forward, accepted]
      rfl
    · rwa [grown]
    · rw [grown, sent]
      exact ordered.step admits emits

end PolyBot.MarketData
