import Mathlib.Data.List.Perm.Basic
import PolyBot.Lib.KeyedMap
import PolyBot.Lib.Machine
import PolyBot.Lib.Notify

/-!
# The opportunity mailbox

Opportunities wait by strategy, the latest of each in the place of an older one, and a queue of
strategies says whose turn it is.  Handles submit and finish; one receiver takes an opportunity when
the lane is available.  Every method changes the state under a lock and calls for a wake-up after it
has released the lock, so the calls are steps of their own here and interleave with everything else.

The mailbox reads nothing of an opportunity but its pair, and the rest of it stays a parameter.
Counting the discarded ones is left out, and the lock is never poisoned.

* `LatestOpportunityState`: the state under the lock, with `trySubmit`, `finish`, `receive` and the
  drops.
* `World.step`: what the tasks can do next, each method cut at its lock and its wake-up calls.
* `Consistent`: what holds of the state and the log in every world, with one lemma for each action.
* `World.exists_before`: the world in which an event of the log happened.
* `mailbox_delivers_once_and_in_turn`: the main result.
-/

namespace PolyBot.Trade.Mailbox

open KeyedMap List

open scoped List

inductive ExecutionLaneState
  | available
  | busy
  deriving DecidableEq

variable {ω : Type} {pairId : ω → String}

inductive PaperTradeSubmitResult (ω : Type)
  | accepted
  | superseded (previous : ω)
  | unavailable
  deriving DecidableEq

structure LatestOpportunityState (pairId : ω → String) where
  pendingByStrategy : KeyedMap pairId
  roundRobin : List String
  lane : ExecutionLaneState
  senders : Nat
  receiverOpen : Bool

/-- What the receiver finds when it holds the lock. -/
inductive Received (ω : Type)
  | delivered (opportunity : ω)
  | closed
  | nothing

variable (state : LatestOpportunityState pairId)

namespace LatestOpportunityState

def channel (initialLane : ExecutionLaneState) : LatestOpportunityState pairId where
  pendingByStrategy := .empty
  roundRobin := []
  lane := initialLane
  senders := 1
  receiverOpen := true

def trySubmit (opportunity : ω) : PaperTradeSubmitResult ω × LatestOpportunityState pairId :=
  if state.receiverOpen = false then
    (.unavailable, state)
  else
    let strategyId := pairId opportunity
    let previous := state.pendingByStrategy.get? strategyId
    let state := { state with pendingByStrategy := state.pendingByStrategy.put opportunity }
    match previous with
    | none => (.accepted, { state with roundRobin := state.roundRobin ++ [strategyId] })
    | some previous => (.superseded previous, state)

def finish : LatestOpportunityState pairId :=
  { state with lane := .available }

/-- What the receiver does when there is nothing to deliver. -/
def closedOrNothing : Received ω :=
  if state.senders = 0 ∨ state.receiverOpen = false then .closed else .nothing

/-- The part of a receive under the lock. -/
def receive : Received ω × LatestOpportunityState pairId :=
  if state.lane = .available then
    match state.roundRobin with
    | [] => (state.closedOrNothing, state)
    | strategyId :: rest =>
      let popped := { state with roundRobin := rest }
      match state.pendingByStrategy.get? strategyId with
      | none => (popped.closedOrNothing, popped)
      | some opportunity =>
        (.delivered opportunity,
          { popped with pendingByStrategy := state.pendingByStrategy.erase strategyId
                        lane := .busy })
  else
    (state.closedOrNothing, state)

def cloneHandle : LatestOpportunityState pairId :=
  { state with senders := saturateNat 64 (state.senders + 1) }

def dropHandle : LatestOpportunityState pairId :=
  { state with senders := state.senders - 1 }

def dropReceiver : LatestOpportunityState pairId :=
  { state with pendingByStrategy := .empty, roundRobin := [], receiverOpen := false }

/-- An opportunity can be taken now. -/
def Deliverable : Prop :=
  state.lane = .available ∧ state.roundRobin ≠ []

end LatestOpportunityState

open LatestOpportunityState

/-! ## Tasks and their steps -/

inductive Event (ω : Type)
  | submitted (opportunity : ω) (result : PaperTradeSubmitResult ω)
  | finished
  | delivered (opportunity : ω)
  /-- The receiver is dropped with a queue and the opportunities in it. -/
  | discarded (queue : List String) (opportunities : List ω)

/-- Where the receiving task is. -/
inductive Phase
  | idle
  /-- A receive has taken its ticket and not the lock yet. -/
  | looking
  /-- It found nothing and waits on the ticket. -/
  | waiting
  | gone
  deriving DecidableEq

structure World (pairId : ω → String) where
  state : LatestOpportunityState pairId
  notify : Notify
  phase : Phase
  /-- Wake-up calls of methods that have released the lock and not called yet. -/
  calls : List Wake
  log : List (Event ω)

inductive Action (ω : Type)
  | submit (opportunity : ω)
  | finish
  | cloneHandle
  | dropHandle
  /-- One of the outstanding wake-up calls is made. -/
  | call (index : Nat)
  /-- A receive begins. -/
  | recv
  /-- It takes the lock. -/
  | look
  /-- It waits on its ticket. -/
  | poll
  /-- It is given up while it waits. -/
  | cancel
  | dropReceiver

namespace World

def start (initialLane : ExecutionLaneState) : World pairId where
  state := .channel initialLane
  notify := ⟨false, none⟩
  phase := .idle
  calls := []
  log := []

/-- The world after an action, when the tasks can take it. -/
def step (world : World pairId) : Action ω → Option (World pairId)
  | .submit opportunity =>
    let (result, state) := world.state.trySubmit opportunity
    some { world with
      state := state
      calls := match result with
        | .unavailable => world.calls
        | _ => world.calls ++ [.one]
      log := world.log ++ [.submitted opportunity result] }
  | .finish => some { world with
      state := world.state.finish
      calls := world.calls ++ [.all]
      log := world.log ++ [.finished] }
  | .cloneHandle => some { world with state := world.state.cloneHandle }
  | .dropHandle => some { world with
      state := world.state.dropHandle
      calls := world.calls ++ [.all] }
  | .call index => do
    let wake ← world.calls[index]?
    some { world with notify := world.notify.call wake, calls := world.calls.eraseIdx index }
  | .recv =>
    if world.phase = .idle then
      some { world with notify := world.notify.notified, phase := .looking }
    else
      none
  | .look =>
    if world.phase = .looking then
      let (received, state) := world.state.receive
      match received with
      | .delivered opportunity => some { world with
          state := state
          notify := world.notify.cancel
          phase := .idle
          log := world.log ++ [.delivered opportunity] }
      | .closed => some { world with state := state, notify := world.notify.cancel, phase := .idle }
      | .nothing => some { world with state := state, phase := .waiting }
    else
      none
  | .poll =>
    if world.phase = .waiting then
      let (ready, notify) := world.notify.poll
      if ready = true then
        some { world with notify := notify.notified, phase := .looking }
      else
        some { world with notify := notify }
    else
      none
  | .cancel =>
    if world.phase = .waiting then
      some { world with notify := world.notify.cancel, phase := .idle }
    else
      none
  | .dropReceiver =>
    if world.phase = .idle then
      some { world with
        state := world.state.dropReceiver
        phase := .gone
        calls := world.calls ++ [.all]
        log := world.log ++ [.discarded world.state.roundRobin world.state.pendingByStrategy.values] }
    else
      none

end World

/-- The worlds that the tasks can bring about. -/
inductive Reaches (initialLane : ExecutionLaneState) : World pairId → Prop
  | start : Reaches initialLane (World.start initialLane)
  | next {before after : World pairId} {action : Action ω} (reached : Reaches initialLane before)
      (stepped : before.step action = some after) : Reaches initialLane after

/-! ## Reading the log -/

/-- What was submitted. -/
def submissions (log : List (Event ω)) : List ω :=
  log.filterMap fun
    | .submitted opportunity _ => some opportunity
    | _ => none

/-- What was delivered. -/
def deliveries (log : List (Event ω)) : List ω :=
  log.filterMap fun
    | .delivered opportunity => some opportunity
    | _ => none

/-- What was handed back as superseded. -/
def handedBack (log : List (Event ω)) : List ω :=
  log.filterMap fun
    | .submitted _ (.superseded previous) => some previous
    | _ => none

/-- What was reported unavailable. -/
def refused (log : List (Event ω)) : List ω :=
  log.filterMap fun
    | .submitted opportunity .unavailable => some opportunity
    | _ => none

/-- What the drop of the receiver discarded. -/
def discarded (log : List (Event ω)) : List ω :=
  log.flatMap fun
    | .discarded _ opportunities => opportunities
    | _ => []

/-- The strategies that the drop of the receiver found in the queue. -/
def discardedQueue (log : List (Event ω)) : List String :=
  log.flatMap fun
    | .discarded queue _ => queue
    | _ => []

/-- The strategies in the order in which they became pending. -/
def becamePending (pairId : ω → String) (log : List (Event ω)) : List String :=
  log.filterMap fun
    | .submitted opportunity .accepted => some (pairId opportunity)
    | _ => none

/-- The lane after the events of a log. -/
def laneAfter (initialLane : ExecutionLaneState) (log : List (Event ω)) : ExecutionLaneState :=
  log.foldl (fun lane event =>
    match event with
    | .finished => .available
    | .delivered _ => .busy
    | _ => lane) initialLane

/-- The latest submission for a strategy. -/
def latest (pairId : ω → String) (log : List (Event ω)) (strategyId : String) : Option ω :=
  ((submissions log).filter fun opportunity => pairId opportunity = strategyId).getLast?

section Append

variable (first second : List (Event ω))

@[simp]
theorem submissions_append : submissions (first ++ second) = submissions first ++ submissions second :=
  filterMap_append

@[simp]
theorem deliveries_append : deliveries (first ++ second) = deliveries first ++ deliveries second :=
  filterMap_append

@[simp]
theorem handedBack_append : handedBack (first ++ second) = handedBack first ++ handedBack second :=
  filterMap_append

@[simp]
theorem refused_append : refused (first ++ second) = refused first ++ refused second :=
  filterMap_append

@[simp]
theorem discarded_append : discarded (first ++ second) = discarded first ++ discarded second :=
  flatMap_append

@[simp]
theorem discardedQueue_append :
    discardedQueue (first ++ second) = discardedQueue first ++ discardedQueue second :=
  flatMap_append

@[simp]
theorem becamePending_append : becamePending pairId (first ++ second) =
    becamePending pairId first ++ becamePending pairId second :=
  filterMap_append

theorem laneAfter_append (initialLane : ExecutionLaneState) :
    laneAfter initialLane (first ++ second) = laneAfter (laneAfter initialLane first) second :=
  foldl_append

end Append

variable {log : List (Event ω)}

/-- What one event moves between the classes of submissions. -/
theorem account_append {event : Event ω} {before after : List ω} (account : (submissions log).Perm
      (deliveries log ++ handedBack log ++ refused log ++ discarded log ++ before))
    (moved : (submissions [event] ++ before).Perm (deliveries [event] ++ handedBack [event] ++
      refused [event] ++ discarded [event] ++ after)) :
    (submissions (log ++ [event])).Perm (deliveries (log ++ [event]) ++
      handedBack (log ++ [event]) ++ refused (log ++ [event]) ++ discarded (log ++ [event]) ++
      after) := by
  classical
  rw [perm_iff_count]
  intro opportunity
  have counts := account.count_eq opportunity
  have shift := moved.count_eq opportunity
  simp only [submissions_append, deliveries_append, handedBack_append, refused_append,
    discarded_append, count_append] at counts shift ⊢
  omega

variable {opportunity : ω} {result : PaperTradeSubmitResult ω}

theorem latest_submitted :
    latest pairId (log ++ [.submitted opportunity result]) (pairId opportunity) =
      some opportunity := by
  simp [latest, submissions]

theorem latest_submitted_of_ne {strategyId : String} (ne : pairId opportunity ≠ strategyId) :
    latest pairId (log ++ [.submitted opportunity result]) strategyId =
      latest pairId log strategyId := by
  simp [latest, submissions, ne]

/-! ## The state and the log -/

/-- What holds of the state and the log in every world. -/
structure Recorded (initialLane : ExecutionLaneState) (state : LatestOpportunityState pairId)
    (log : List (Event ω)) : Prop where
  queued : state.roundRobin.Nodup
  keys : ∀ strategyId, strategyId ∈ state.roundRobin ↔
    (state.pendingByStrategy.get? strategyId).isSome = true
  account : (submissions log).Perm (deliveries log ++ handedBack log ++ refused log ++
    discarded log ++ state.pendingByStrategy.values)
  order : becamePending pairId log =
    (deliveries log).map pairId ++ discardedQueue log ++ state.roundRobin
  lane : state.lane = laneAfter initialLane log
  unbroken : state.receiverOpen = true → discardedQueue log = []
  shut : state.receiverOpen = false → state.roundRobin = []
  latest : ∀ opportunity ∈ state.pendingByStrategy.values,
    latest pairId log (pairId opportunity) = some opportunity

section Recorded

variable {initialLane : ExecutionLaneState} {state : LatestOpportunityState pairId}
  {log : List (Event ω)}

theorem recorded_start (initialLane : ExecutionLaneState) :
    Recorded initialLane (.channel initialLane : LatestOpportunityState pairId) [] where
  queued := nodup_nil
  keys := by simp [channel]
  account := by
    simp [channel, submissions, deliveries, handedBack, refused, discarded]
  order := by
    simp [channel, becamePending, deliveries, discardedQueue]
  lane := rfl
  unbroken _ := rfl
  shut _ := rfl
  latest := by simp [channel]

/-- How many handles there are is not recorded. -/
theorem Recorded.senders (recorded : Recorded initialLane state log) (senders : Nat) :
    Recorded initialLane { state with senders := senders } log :=
  { recorded with }

theorem Recorded.finish (recorded : Recorded initialLane state log) :
    Recorded initialLane state.finish (log ++ [.finished]) where
  queued := recorded.queued
  keys := recorded.keys
  account := account_append recorded.account (List.Perm.refl _)
  order := by
    simpa [becamePending, deliveries, discardedQueue,
      LatestOpportunityState.finish] using recorded.order
  lane := by
    rw [laneAfter_append]
    rfl
  unbroken isOpen := by simpa [discardedQueue] using recorded.unbroken isOpen
  shut := recorded.shut
  latest opportunity mem := by
    have same : Mailbox.latest pairId (log ++ [.finished]) (pairId opportunity) =
        Mailbox.latest pairId log (pairId opportunity) := by
      simp [Mailbox.latest, submissions]
    rw [same]
    exact recorded.latest opportunity mem

theorem trySubmit_shut (shut : state.receiverOpen = false) (opportunity : ω) :
    state.trySubmit opportunity = (.unavailable, state) :=
  if_pos shut

variable {opportunity : ω}

theorem trySubmit_accepted (isOpen : state.receiverOpen = true)
    (absent : state.pendingByStrategy.get? (pairId opportunity) = none) :
    state.trySubmit opportunity = (.accepted,
      { state with pendingByStrategy := state.pendingByStrategy.put opportunity
                   roundRobin := state.roundRobin ++ [pairId opportunity] }) := by
  simp [trySubmit, isOpen, absent]

theorem trySubmit_superseded (isOpen : state.receiverOpen = true) {previous : ω}
    (present : state.pendingByStrategy.get? (pairId opportunity) = some previous) :
    state.trySubmit opportunity = (.superseded previous,
      { state with pendingByStrategy := state.pendingByStrategy.put opportunity }) := by
  simp [trySubmit, isOpen, present]

section

variable (recorded : Recorded initialLane state log)
include recorded

/-- The latest submissions of what is pending after one more. -/
theorem Recorded.latest_put {result : PaperTradeSubmitResult ω} :
    ∀ other ∈ (state.pendingByStrategy.put opportunity).values,
      Mailbox.latest pairId (log ++ [.submitted opportunity result]) (pairId other) =
        some other := by
  intro other mem
  rcases mem_values_put.mp mem with rfl | ⟨ne, mem⟩
  · exact latest_submitted
  · rw [latest_submitted_of_ne ne]
    exact recorded.latest other mem

/-- The queue has the keys of the map after a write under a new key. -/
theorem Recorded.mem_queue_put (strategyId : String) :
    ((state.pendingByStrategy.put opportunity).get? strategyId).isSome = true ↔
      strategyId ∈ state.roundRobin ∨ strategyId = pairId opportunity := by
  rw [get?_put, recorded.keys, @eq_comm _ strategyId]
  split_ifs with same <;> simp [same]

theorem Recorded.refuse (opportunity : ω) (shut : state.receiverOpen = false) :
    Recorded initialLane state (log ++ [.submitted opportunity .unavailable]) where
  queued := recorded.queued
  keys := recorded.keys
  account := account_append recorded.account (List.Perm.refl _)
  order := by
    simpa [becamePending, deliveries, discardedQueue] using recorded.order
  lane := by
    rw [laneAfter_append, ← recorded.lane]
    rfl
  unbroken isOpen := by
    rw [shut] at isOpen
    cases isOpen
  shut := recorded.shut
  latest other mem := by
    -- nothing is pending once the receiver is gone
    have here := (recorded.keys (pairId other)).mpr (by simp [mem_values.mp mem])
    rw [recorded.shut shut] at here
    cases here

theorem Recorded.accept (isOpen : state.receiverOpen = true)
    (absent : state.pendingByStrategy.get? (pairId opportunity) = none) :
    Recorded initialLane
      { state with pendingByStrategy := state.pendingByStrategy.put opportunity
                   roundRobin := state.roundRobin ++ [pairId opportunity] }
      (log ++ [.submitted opportunity .accepted]) where
  queued := by
    have unqueued : pairId opportunity ∉ state.roundRobin := by
      rw [recorded.keys, absent]
      simp
    exact nodup_append.mpr ⟨recorded.queued, pairwise_singleton _ _,
      by simpa using fun id mem => ne_of_mem_of_not_mem mem unqueued⟩
  keys strategyId := by
    rw [recorded.mem_queue_put, mem_append, mem_singleton]
  account := by
    refine account_append recorded.account ?_
    exact ((values_erase_perm_of_absent absent).symm.cons opportunity).trans
      (values_put_perm state.pendingByStrategy opportunity).symm
  order := by
    rw [becamePending_append, recorded.order]
    simp [becamePending, deliveries, discardedQueue]
  lane := by
    rw [laneAfter_append, ← recorded.lane]
    rfl
  unbroken isOpen := by simpa [discardedQueue] using recorded.unbroken isOpen
  shut closed := by
    dsimp only at closed
    rw [isOpen] at closed
    cases closed
  latest := recorded.latest_put

theorem Recorded.supersede {previous : ω}
    (present : state.pendingByStrategy.get? (pairId opportunity) = some previous) :
    Recorded initialLane
      { state with pendingByStrategy := state.pendingByStrategy.put opportunity }
      (log ++ [.submitted opportunity (.superseded previous)]) where
  queued := recorded.queued
  keys strategyId := by
    have here : pairId opportunity ∈ state.roundRobin := by
      rw [recorded.keys, present]
      rfl
    rw [recorded.mem_queue_put]
    constructor
    · exact Or.inl
    · intro queued
      rcases queued with queued | rfl
      · exact queued
      · exact here
  account := by
    refine account_append recorded.account ?_
    calc opportunity :: state.pendingByStrategy.values
      _ ~ opportunity :: previous ::
          (state.pendingByStrategy.erase (pairId opportunity)).values :=
        (values_perm_erase present).cons opportunity
      _ ~ previous :: opportunity ::
          (state.pendingByStrategy.erase (pairId opportunity)).values := .swap ..
      _ ~ previous :: (state.pendingByStrategy.put opportunity).values :=
        (values_put_perm state.pendingByStrategy opportunity).symm.cons previous
  order := by
    simpa [becamePending, deliveries, discardedQueue] using recorded.order
  lane := by
    rw [laneAfter_append, ← recorded.lane]
    rfl
  unbroken isOpen := by simpa [discardedQueue] using recorded.unbroken isOpen
  shut := recorded.shut
  latest := recorded.latest_put

/-- A submission is refused, begins to wait at the end of the queue, or takes an older one's
place. -/
theorem Recorded.submit (opportunity : ω) :
    Recorded initialLane (state.trySubmit opportunity).2
      (log ++ [.submitted opportunity (state.trySubmit opportunity).1]) := by
  cases isOpen : state.receiverOpen with
  | false =>
    rw [trySubmit_shut isOpen]
    exact recorded.refuse opportunity isOpen
  | true =>
    cases present : state.pendingByStrategy.get? (pairId opportunity) with
    | none =>
      rw [trySubmit_accepted isOpen present]
      exact recorded.accept isOpen present
    | some previous =>
      rw [trySubmit_superseded isOpen present]
      exact recorded.supersede present

/-- A receive takes the first of the queue, or finds the state as it leaves it. -/
theorem Recorded.receive_cases :
    (∃ strategyId rest opportunity, state.lane = .available ∧
        state.roundRobin = strategyId :: rest ∧
        state.pendingByStrategy.get? strategyId = some opportunity ∧
        state.receive = (.delivered opportunity,
          { state with roundRobin := rest
                       pendingByStrategy := state.pendingByStrategy.erase strategyId
                       lane := .busy })) ∨
      ¬state.Deliverable ∧ state.receive = (state.closedOrNothing, state) := by
  unfold receive LatestOpportunityState.Deliverable
  by_cases lane : state.lane = .available
  · rw [if_pos lane]
    cases queue : state.roundRobin with
    | nil => exact .inr ⟨by simp, rfl⟩
    | cons strategyId rest =>
      have stored := (recorded.keys strategyId).mp (by simp [queue])
      obtain ⟨opportunity, found⟩ := Option.isSome_iff_exists.mp stored
      left
      refine ⟨strategyId, rest, opportunity, lane, rfl, found, ?_⟩
      simp only [found]
  · rw [if_neg lane]
    exact .inr ⟨fun deliverable => lane deliverable.1, rfl⟩

theorem Recorded.deliver {strategyId : String} {rest : List String}
    (queue : state.roundRobin = strategyId :: rest)
    (found : state.pendingByStrategy.get? strategyId = some opportunity) :
    Recorded initialLane
      { state with roundRobin := rest
                   pendingByStrategy := state.pendingByStrategy.erase strategyId
                   lane := .busy }
      (log ++ [.delivered opportunity]) where
  queued := by
    have queued := recorded.queued
    rw [queue] at queued
    exact (nodup_cons.mp queued).2
  keys other := by
    have queued := recorded.queued
    rw [queue, nodup_cons] at queued
    have before := recorded.keys other
    rw [queue, mem_cons] at before
    by_cases same : strategyId = other
    · subst same
      simp [get?_erase_self, queued.1]
    · have ne : other ≠ strategyId := fun eq => same eq.symm
      dsimp only
      rw [get?_erase_of_ne _ same, ← before, or_iff_right ne]
  account := account_append recorded.account (values_perm_erase found)
  order := by
    rw [becamePending_append, recorded.order, queue]
    have open_ : discardedQueue log = [] := by
      cases isOpen : state.receiverOpen with
      | true => exact recorded.unbroken isOpen
      | false =>
        rw [recorded.shut isOpen] at queue
        cases queue
    have key := key_of_get? found
    simp [becamePending, deliveries, discardedQueue_append, open_, key]
    simp [discardedQueue]
  lane := by
    rw [laneAfter_append]
    rfl
  unbroken isOpen := by simpa [discardedQueue] using recorded.unbroken isOpen
  shut closed := by
    have empty := recorded.shut closed
    rw [queue] at empty
    cases empty
  latest other mem := by
    have same : Mailbox.latest pairId (log ++ [.delivered opportunity]) (pairId other) =
        Mailbox.latest pairId log (pairId other) := by
      simp [Mailbox.latest, submissions]
    rw [same]
    exact recorded.latest other (mem_values_erase.mp mem).2

theorem Recorded.dropReceiver :
    Recorded initialLane state.dropReceiver
      (log ++ [.discarded state.roundRobin state.pendingByStrategy.values]) where
  queued := nodup_nil
  keys := by simp [LatestOpportunityState.dropReceiver]
  account := by
    refine account_append recorded.account ?_
    simp [submissions, deliveries, handedBack, refused, discarded,
      LatestOpportunityState.dropReceiver]
  order := by
    rw [becamePending_append, recorded.order]
    simp [becamePending, deliveries, discardedQueue, LatestOpportunityState.dropReceiver]
  lane := by
    rw [laneAfter_append, ← recorded.lane]
    rfl
  unbroken isOpen := nomatch isOpen
  shut _ := rfl
  latest := by simp [LatestOpportunityState.dropReceiver]

end

end Recorded

/-! ## Every world -/

/-- A receive would return if it looked now. -/
def LatestOpportunityState.Returns : Prop :=
  state.Deliverable ∨ state.senders = 0 ∨ state.receiverOpen = false

/-- The log records the state, and a receive that waits although it would return is covered by a
wake-up. -/
structure Consistent (initialLane : ExecutionLaneState) (world : World pairId) : Prop where
  recorded : Recorded initialLane world.state world.log
  awake : world.phase = .waiting → world.state.Returns → world.notify.Covered world.calls

/-- What holds when an event happens: a delivery is of a pending opportunity with the lane available,
and a strategy becomes pending only while there is a receiver. -/
def Event.Allowed : Event ω → Prop
  | .delivered opportunity =>
    state.lane = .available ∧ opportunity ∈ state.pendingByStrategy.values
  | .submitted _ .accepted => state.receiverOpen = true
  | _ => True

section Steps

variable {initialLane : ExecutionLaneState} {world after : World pairId}

section

variable (consistent : Consistent initialLane world)
include consistent

/-- What looking at the state comes to. -/
theorem Consistent.look (stepped : world.step .look = some after) :
    Consistent initialLane after ∧ (after.log = world.log ∨
      ∃ event, after.log = world.log ++ [event] ∧ event.Allowed world.state) := by
  simp only [World.step] at stepped
  split at stepped
  · rcases consistent.recorded.receive_cases with delivers | ⟨undeliverable, found⟩
    · obtain ⟨strategyId, rest, opportunity, lane, queue, found, received⟩ := delivers
      rw [received] at stepped
      cases stepped
      refine ⟨⟨consistent.recorded.deliver queue found, fun phase => by cases phase⟩, .inr ?_⟩
      exact ⟨.delivered opportunity, rfl, lane, mem_values_of_get? found⟩
    · rw [found] at stepped
      dsimp only at stepped
      unfold closedOrNothing at stepped
      split at stepped
      · rename_i closes
        split at closes
        · cases closes
        · cases closes
      · rename_i closes
        cases stepped
        exact ⟨⟨consistent.recorded, fun phase => by cases phase⟩, .inl rfl⟩
      · rename_i waits
        cases stepped
        refine ⟨⟨consistent.recorded, ?_⟩, .inl rfl⟩
        -- a receive waits only where it would not return
        intro _ returns
        split at waits
        · cases waits
        · rename_i stays
          rcases returns with deliverable | closes
          · exact absurd deliverable undeliverable
          · exact absurd closes stays
  · cases stepped

theorem Consistent.poll (stepped : world.step .poll = some after) :
    Consistent initialLane after ∧ after.log = world.log := by
  simp only [World.step] at stepped
  split at stepped
  · rename_i waiting
    split at stepped
    · cases stepped
      exact ⟨⟨consistent.recorded, fun phase => by cases phase⟩, rfl⟩
    · cases stepped
      exact ⟨⟨consistent.recorded, fun _ returns => (consistent.awake waiting returns).poll⟩, rfl⟩
  · cases stepped

/-- The step lemma: an action keeps the world consistent and logs at most one event. -/
theorem Consistent.step {action : Action ω} (stepped : world.step action = some after) :
    Consistent initialLane after ∧ (after.log = world.log ∨
      ∃ event, after.log = world.log ++ [event] ∧ event.Allowed world.state) := by
  cases action with
  | submit opportunity =>
    simp only [World.step, Option.some.injEq] at stepped
    subst stepped
    cases isOpen : world.state.receiverOpen with
    | false =>
      refine ⟨⟨consistent.recorded.submit opportunity, ?_⟩, .inr ⟨_, rfl, ?_⟩⟩
      · intro waiting returns
        dsimp only at waiting returns ⊢
        rw [trySubmit_shut isOpen] at returns ⊢
        exact consistent.awake waiting returns
      · rw [trySubmit_shut isOpen]
        trivial
    | true =>
      refine ⟨⟨consistent.recorded.submit opportunity, fun _ _ => Notify.covered_of_calls ?_⟩,
        .inr ⟨_, rfl, ?_⟩⟩
      · cases present : world.state.pendingByStrategy.get? (pairId opportunity) with
        | none => simp [trySubmit_accepted isOpen present]
        | some previous => simp [trySubmit_superseded isOpen present]
      · unfold Event.Allowed
        split
        · rename_i delivered
          cases delivered
        · exact isOpen
        · trivial
  | finish =>
    cases stepped
    refine ⟨⟨consistent.recorded.finish, ?_⟩, .inr ⟨_, rfl, trivial⟩⟩
    exact fun _ _ => Notify.covered_of_calls (by simp)
  | cloneHandle =>
    cases stepped
    refine ⟨⟨consistent.recorded.senders _, ?_⟩, .inl rfl⟩
    intro waiting returns
    apply consistent.awake waiting
    rcases returns with deliverable | none | shut
    · exact .inl deliverable
    · simp only [cloneHandle, saturateNat] at none
      omega
    · exact .inr (.inr shut)
  | dropHandle =>
    cases stepped
    refine ⟨⟨consistent.recorded.senders _, ?_⟩, .inl rfl⟩
    exact fun _ _ => Notify.covered_of_calls (by simp)
  | call index =>
    simp only [World.step, Option.bind_eq_bind, Option.bind_eq_some_iff, Option.some.injEq]
      at stepped
    obtain ⟨wake, _, rfl⟩ := stepped
    exact ⟨⟨consistent.recorded, fun _ _ => Notify.covered_call _ wake _⟩, .inl rfl⟩
  | recv | cancel =>
    simp only [World.step] at stepped
    split at stepped
    · cases stepped
      exact ⟨⟨consistent.recorded, fun phase => by cases phase⟩, .inl rfl⟩
    · cases stepped
  | look => exact consistent.look stepped
  | poll =>
    obtain ⟨kept, logged⟩ := consistent.poll stepped
    exact ⟨kept, .inl logged⟩
  | dropReceiver =>
    simp only [World.step] at stepped
    split at stepped
    · cases stepped
      exact ⟨⟨consistent.recorded.dropReceiver, fun phase => by cases phase⟩, .inr ⟨_, rfl, trivial⟩⟩
    · cases stepped

end

/-- The run lemma. -/
theorem consistent_of_reaches (reached : Reaches initialLane world) :
    Consistent initialLane world := by
  induction reached with
  | start => exact ⟨recorded_start initialLane, fun phase => by cases phase⟩
  | next reached stepped ih => exact (ih.step stepped).1

/-- Every event of the log happened in a world whose log is what comes before it. -/
theorem exists_before (reached : Reaches initialLane world) {earlier later : List (Event ω)}
    {event : Event ω} (logged : world.log = earlier ++ event :: later) :
    ∃ before : World pairId, Reaches initialLane before ∧ before.log = earlier ∧
      event.Allowed before.state := by
  induction reached generalizing later with
  | start =>
    have empty : ([] : List (Event ω)) = earlier ++ event :: later := logged
    simp at empty
  | @next before after action reached stepped ih =>
    obtain ⟨-, same | ⟨last, grown, allowed⟩⟩ := (consistent_of_reaches reached).step stepped
    · exact ih (same.symm.trans logged)
    · rw [grown] at logged
      -- the event is the one just logged, or an earlier one
      rcases eq_nil_or_concat later with rfl | ⟨others, final, rfl⟩
      · obtain ⟨rfl, ⟨⟩⟩ := append_inj' logged rfl
        exact ⟨before, reached, rfl, allowed⟩
      · rw [concat_eq_append, ← cons_append, ← append_assoc] at logged
        exact ih (append_inj' logged rfl).1

end Steps

/-- Without a finish a busy lane stays busy. -/
theorem laneAfter_busy (unfinished : Event.finished ∉ log) : laneAfter .busy log = .busy := by
  induction log with
  | nil => rfl
  | cons event log ih =>
    rw [mem_cons, not_or] at unfinished
    cases event with
    | submitted => exact ih unfinished.2
    | finished => exact absurd rfl unfinished.1
    | delivered => exact ih unfinished.2
    | discarded => exact ih unfinished.2

section Results

variable {initialLane : ExecutionLaneState} {world : World pairId} {earlier later : List (Event ω)}

section

variable (reached : Reaches initialLane world)
include reached

theorem finished_between {between : List (Event ω)} {first second : ω}
    (logged : world.log = earlier ++ .delivered first :: between ++ .delivered second :: later) :
    Event.finished ∈ between := by
  obtain ⟨before, reachedBefore, log, lane, -⟩ := exists_before reached logged
  rw [(consistent_of_reaches reachedBefore).recorded.lane, log, laneAfter_append] at lane
  by_contra unfinished
  have busy := laneAfter_busy unfinished
  change laneAfter .busy between = .available at lane
  rw [busy] at lane
  cases lane

variable {opportunity : ω}

theorem delivered_latest (logged : world.log = earlier ++ .delivered opportunity :: later) :
    latest pairId earlier (pairId opportunity) = some opportunity := by
  obtain ⟨before, reachedBefore, log, -, pending⟩ := exists_before reached logged
  rw [← log]
  exact (consistent_of_reaches reachedBefore).recorded.latest opportunity pending

/-- While a strategy waits, the others are delivered from the queue that it found. -/
theorem deliveries_while_waiting
    (logged : world.log = earlier ++ .submitted opportunity .accepted :: later)
    (waits : ∀ other ∈ deliveries later, pairId other ≠ pairId opportunity) :
    ((deliveries later).map pairId).Nodup := by
  obtain ⟨before, reachedBefore, log, isOpen⟩ := exists_before reached logged
  have found := (consistent_of_reaches reachedBefore).recorded
  have foundOrder := found.order
  rw [log, ← log, found.unbroken isOpen, append_nil, log] at foundOrder
  have order := (consistent_of_reaches reached).recorded.order
  have split : becamePending pairId world.log = becamePending pairId earlier ++
      pairId opportunity :: becamePending pairId later := by
    rw [logged, becamePending_append]
    rfl
  have delivered : deliveries world.log = deliveries earlier ++ deliveries later := by
    rw [logged, deliveries_append]
    rfl
  rw [split, delivered, foundOrder, map_append, append_assoc, append_assoc,
    append_assoc, append_right_inj] at order
  -- both sides begin with what the queue held, and the strategy itself was not delivered
  have unserved : pairId opportunity ∉ (deliveries later).map pairId := by
    intro served
    obtain ⟨other, mem, same⟩ := mem_map.mp served
    exact waits other mem same
  rcases append_eq_append_iff.mp order with ⟨overtaken, same, tail⟩ | ⟨left, same, -⟩
  · cases overtaken with
    | nil =>
      rw [same, append_nil]
      exact found.queued
    | cons head rest =>
      rw [cons_append] at tail
      obtain ⟨rfl, -⟩ := cons.inj tail
      rw [same] at unserved
      exact absurd (mem_append_right _ mem_cons_self) unserved
  · have queued := found.queued
    rw [same] at queued
    exact (nodup_append.mp queued).1

/-- A receive does not sleep past an opportunity: whenever it sleeps although one can be taken, the
method that made it so has yet to make its wake-up call, and any such call wakes it. -/
theorem asleep_covered (waiting : world.phase = .waiting)
    (asleep : world.notify.ticket = some .asleep) (deliverable : world.state.Deliverable) :
    world.calls ≠ [] ∧ ∀ wake, (world.notify.call wake).ticket ≠ some .asleep := by
  have covered := (consistent_of_reaches reached).awake waiting (.inl deliverable)
  rw [Notify.Covered, asleep] at covered
  exact ⟨covered, Notify.call_wakes world.notify⟩

end

end Results

/-- In every interleaving: the queue has the keys of the map, each once; every submission is in
exactly one of the classes delivered, handed back, refused, discarded and pending; between two
deliveries the lane was made available; what is delivered is the latest of its strategy; strategies
are served in the order in which they became pending, so one that waits sees every other at most
once; and a receive sleeps past an opportunity only until the outstanding wake-up call is made. -/
theorem mailbox_delivers_once_and_in_turn {ω : Type} {pairId : ω → String}
    {initialLane : ExecutionLaneState} {world : World pairId}
    (reached : Reaches initialLane world) :
    (world.state.roundRobin.Nodup ∧ ∀ strategyId, strategyId ∈ world.state.roundRobin ↔
      (world.state.pendingByStrategy.get? strategyId).isSome = true) ∧
    (submissions world.log).Perm (deliveries world.log ++ handedBack world.log ++
      refused world.log ++ discarded world.log ++ world.state.pendingByStrategy.values) ∧
    (∀ earlier first between second later,
      world.log = earlier ++ .delivered first :: between ++ .delivered second :: later →
      Event.finished ∈ between) ∧
    (∀ earlier opportunity later, world.log = earlier ++ .delivered opportunity :: later →
      latest pairId earlier (pairId opportunity) = some opportunity) ∧
    becamePending pairId world.log = (deliveries world.log).map pairId ++
      discardedQueue world.log ++ world.state.roundRobin ∧
    (∀ earlier opportunity later,
      world.log = earlier ++ .submitted opportunity .accepted :: later →
      (∀ other ∈ deliveries later, pairId other ≠ pairId opportunity) →
      ((deliveries later).map pairId).Nodup) ∧
    (world.phase = .waiting → world.notify.ticket = some .asleep → world.state.Deliverable →
      world.calls ≠ [] ∧ ∀ wake, (world.notify.call wake).ticket ≠ some .asleep) := by
  have recorded := (consistent_of_reaches reached).recorded
  refine ⟨⟨recorded.queued, recorded.keys⟩, recorded.account, ?_, ?_, recorded.order, ?_, ?_⟩
  · intro earlier first between second later logged
    exact finished_between reached logged
  · intro earlier opportunity later logged
    exact delivered_latest reached logged
  · intro earlier opportunity later logged waits
    exact deliveries_while_waiting reached logged waits
  · exact asleep_covered reached

theorem reaches_of_run {initialLane : ExecutionLaneState} {before after : World pairId}
    {actions : List (Action ω)} (reached : Reaches initialLane before)
    (ran : actions.foldlM World.step before = some after) : Reaches initialLane after := by
  induction actions generalizing before with
  | nil =>
    cases ran
    exact reached
  | cons action actions ih =>
    rw [foldlM_cons, Option.bind_eq_bind, Option.bind_eq_some_iff] at ran
    obtain ⟨next, stepped, ran⟩ := ran
    exact ih (reached.next stepped) ran

/-- Two submissions of one strategy, the second of which is delivered to a receive that slept. -/
def wakeUp : List (Action (Nat × String)) :=
  [.recv, .look, .poll, .submit (1, "WLD"), .submit (2, "WLD"), .call 0, .poll, .look]

theorem wake_up_delivers_the_latest :
    ∃ world : World (Prod.snd : Nat × String → String), Reaches .available world ∧
      deliveries world.log = [(2, "WLD")] ∧ handedBack world.log = [(1, "WLD")] ∧
      world.state.roundRobin = [] ∧ becamePending Prod.snd world.log = ["WLD"] := by
  have ran : (wakeUp.foldlM World.step (World.start .available :
      World (Prod.snd : Nat × String → String))).map (fun world =>
        (deliveries world.log, handedBack world.log, world.state.roundRobin,
          discardedQueue world.log)) =
      some ([(2, "WLD")], [(1, "WLD")], [], []) := by
    decide +kernel
  obtain ⟨world, stepped, values⟩ := Option.map_eq_some_iff.mp ran
  simp only [Prod.mk.injEq] at values
  obtain ⟨delivered, back, queue, discards⟩ := values
  have reached := reaches_of_run .start stepped
  obtain ⟨-, -, -, -, order, -, -⟩ := mailbox_delivers_once_and_in_turn reached
  refine ⟨world, reached, delivered, back, queue, ?_⟩
  rw [order, delivered, discards, queue]
  rfl

end PolyBot.Trade.Mailbox
