import PolyBot.Lib.Machine
import PolyBot.Lib.Proc
import PolyBot.Lib.RoundRobin
import PolyBot.Lib.Trace
import Mathlib.Data.List.Induction
import Mathlib.Data.List.Sort

/-!
# The sizing scheduler

A bounded number of workers computes trade sizes for the strategies.  Every strategy has one slot,
with at most one running job and the latest snapshot that waits behind it; free workers go to the
waiting strategies in turn.

`Effect` says what one call does, strategy by strategy, and the results about runs follow from it:

* `call_effect`: what any call does, accepted or not.
* `Recorded.step`: how the slots are determined by the calls made so far.
* `fair_latest_only`: the scheduler over all runs.
-/

namespace PolyBot.Strategy

open RoundRobin Trace List

structure FairSizingSlot (S : Type) where
  running : Bool
  pending : Option S
  replacements : Nat
  deriving DecidableEq

/-- A slot without work, as it is created. -/
def FairSizingSlot.vacant {S : Type} : FairSizingSlot S :=
  ⟨false, none, 0⟩

structure FairSizingSubmission where
  replaced : Bool
  queuedBehindRunning : Bool
  deriving DecidableEq

structure FairLatestOnlySizingScheduler (S : Type) where
  strategyIds : List String
  indexByStrategy : Std.TreeMap String Nat
  slots : List (FairSizingSlot S)
  nextIndex : Nat
  running : Nat
  maximumRunning : Nat

namespace FairLatestOnlySizingScheduler

/-- The positions of the strategies, entered from position `index` on. -/
def indexStrategies (indexByStrategy : Std.TreeMap String Nat) (index : Nat) :
    List String → Except String (Std.TreeMap String Nat)
  | [] => .ok indexByStrategy
  | strategyId :: strategyIds => do
    require (strategyId ∉ indexByStrategy) s!"duplicate fair sizing strategy {strategyId}"
    indexStrategies (indexByStrategy.insert strategyId index) (index + 1) strategyIds

variable {S : Type}

def new (strategyIds : List String) (maximumRunning : Nat) :
    Except String (FairLatestOnlySizingScheduler S) := do
  require (0 < maximumRunning) "fair sizing scheduler worker limit must be positive"
  require (strategyIds ≠ []) "fair sizing scheduler is empty"
  let ordered := strategyIds.insertionSort (· ≤ ·)
  let indexByStrategy ← indexStrategies ∅ 0 ordered
  require (maximumRunning ≤ ordered.length) "fair sizing worker limit exceeds the strategy count"
  return ⟨ordered, indexByStrategy, ordered.map fun _ => .vacant, 0, 0, maximumRunning⟩

variable (scheduler : FairLatestOnlySizingScheduler S)

def slot (index : Nat) : FairSizingSlot S :=
  scheduler.slots.getD index .vacant

def setSlot (index : Nat) (slot : FairSizingSlot S) : FairLatestOnlySizingScheduler S :=
  { scheduler with slots := scheduler.slots.set index slot }

/-- A snapshot takes the place of the one that waits. -/
def submit (strategyId : String) (snapshot : S) :
    Except String FairSizingSubmission × FairLatestOnlySizingScheduler S :=
  match scheduler.indexByStrategy[strategyId]? with
  | none => (.error s!"unknown fair sizing strategy {strategyId}", scheduler)
  | some index =>
    let slot := scheduler.slot index
    let replaced := slot.pending.isSome
    let replacements :=
      if replaced then saturateNat 64 (slot.replacements + 1) else slot.replacements
    (.ok ⟨replaced, slot.running⟩,
      scheduler.setSlot index { slot with pending := some snapshot, replacements := replacements })

/-- The job of a slot that waits and does not run; the cursor moves behind it. -/
def dispatch (index : Nat) : FairLatestOnlySizingScheduler S :=
  { scheduler.setSlot index { scheduler.slot index with running := true, pending := none } with
    running := scheduler.running + 1
    nextIndex := (index + 1) % scheduler.slots.length }

/-- The loop over the offsets from the cursor. -/
def takeFrom (scheduler : FairLatestOnlySizingScheduler S) :
    List Nat → Option (String × S) × FairLatestOnlySizingScheduler S
  | [] => (none, scheduler)
  | offset :: offsets =>
    let index := (scheduler.nextIndex + offset) % scheduler.slots.length
    let slot := scheduler.slot index
    if slot.running then scheduler.takeFrom offsets
    else
      match slot.pending with
      | none => scheduler.takeFrom offsets
      | some snapshot =>
        (some (scheduler.strategyIds.getD index "", snapshot), scheduler.dispatch index)

def takeReady : Option (String × S) × FairLatestOnlySizingScheduler S :=
  if scheduler.maximumRunning ≤ scheduler.running then (none, scheduler)
  else scheduler.takeFrom (range scheduler.slots.length)

def complete (strategyId : String) : Except String Unit × FairLatestOnlySizingScheduler S :=
  match scheduler.indexByStrategy[strategyId]? with
  | none => (.error s!"unknown fair sizing strategy {strategyId}", scheduler)
  | some index =>
    let slot := scheduler.slot index
    if slot.running = false then
      (.error "fair sizing slot completed without running work", scheduler)
    else
      let stopped := scheduler.setSlot index { slot with running := false }
      -- the slot has been written by the time the count is checked
      match checkedSub stopped.running 1 with
      | none => (.error "fair sizing running count underflow", stopped)
      | some running => (.ok (), { stopped with running := running })

end FairLatestOnlySizingScheduler

inductive SchedulerCall (S : Type)
  | submit (strategyId : String) (snapshot : S)
  | takeReady
  | complete (strategyId : String)

/-- A call together with its answer. -/
inductive SchedulerEvent (S : Type)
  | submitted (strategyId : String) (snapshot : S) (outcome : Except String FairSizingSubmission)
  | taken (job : Option (String × S))
  | completed (strategyId : String) (outcome : Except String Unit)
  deriving DecidableEq

namespace SchedulerEvent

variable {S : Type}

/-- An accepted snapshot of a strategy. -/
def submits (strategyId : String) : SchedulerEvent S → Bool
  | submitted id _ (.ok _) => id = strategyId
  | _ => false

/-- A job of some strategy. -/
def servesAny : SchedulerEvent S → Bool
  | taken (some _) => true
  | _ => false

def serves (strategyId : String) : SchedulerEvent S → Bool
  | taken (some (id, _)) => id = strategyId
  | _ => false

/-- An accepted completion of a strategy. -/
def completes (strategyId : String) : SchedulerEvent S → Bool
  | completed id (.ok _) => id = strategyId
  | _ => false

/-- The snapshot of a strategy that no job has taken, as the calls tell it. -/
def unserved (strategyId : String) (waiting : Option S) : SchedulerEvent S → Option S
  | submitted id snapshot (.ok _) => if id = strategyId then some snapshot else waiting
  | taken (some (id, _)) => if id = strategyId then none else waiting
  | _ => waiting

end SchedulerEvent

open SchedulerEvent

namespace FairLatestOnlySizingScheduler

variable {S : Type} (scheduler : FairLatestOnlySizingScheduler S)

def call :
    SchedulerCall S → SchedulerEvent S × FairLatestOnlySizingScheduler S
  | .submit strategyId snapshot =>
    let (outcome, next) := scheduler.submit strategyId snapshot
    (.submitted strategyId snapshot outcome, next)
  | .takeReady =>
    let (job, next) := scheduler.takeReady
    (.taken job, next)
  | .complete strategyId =>
    let (outcome, next) := scheduler.complete strategyId
    (.completed strategyId outcome, next)

/-! ## The slots by strategy -/

def slotOf (strategyId : String) : FairSizingSlot S :=
  scheduler.indexByStrategy[strategyId]?.elim .vacant scheduler.slot

/-- A job of the strategy may be dispatched. -/
def Ready (strategyId : String) : Prop :=
  (scheduler.slotOf strategyId).pending ≠ none ∧ (scheduler.slotOf strategyId).running = false

/-- How many slots the cursor passes before it comes to a strategy. -/
def distance (strategyId : String) : Nat :=
  ahead scheduler.slots.length scheduler.nextIndex
    (scheduler.indexByStrategy[strategyId]?.getD 0)

structure Sound (scheduler : FairLatestOnlySizingScheduler S) : Prop where
  sizes : scheduler.slots.length = scheduler.strategyIds.length
  cursor : scheduler.nextIndex < scheduler.slots.length
  indexed : ∀ (strategyId : String) (index : Nat),
    scheduler.indexByStrategy[strategyId]? = some index ↔
      scheduler.strategyIds[index]? = some strategyId
  counted : scheduler.running = scheduler.slots.countP (·.running)
  bounded : scheduler.running ≤ scheduler.maximumRunning

section Slots

variable {scheduler : FairLatestOnlySizingScheduler S} {strategyId : String} {index : Nat}

section Known

variable (sound : scheduler.Sound) (known : scheduler.indexByStrategy[strategyId]? = some index)

include sound known

theorem Sound.index_lt : index < scheduler.slots.length := by
  rw [sound.sizes]
  exact (List.getElem?_eq_some_iff.mp ((sound.indexed strategyId index).mp known)).1

omit known in
/-- Every slot is that of a strategy. -/
theorem Sound.exists_strategy (within : index < scheduler.slots.length) :
    ∃ strategyId, scheduler.strategyIds.getD index "" = strategyId ∧
      scheduler.indexByStrategy[strategyId]? = some index := by
  rw [sound.sizes] at within
  refine ⟨scheduler.strategyIds.get ⟨index, within⟩, ?_, (sound.indexed _ _).mpr ?_⟩ <;>
    simp [within]

omit sound in
theorem slotOf_of_known :
    scheduler.slotOf strategyId = scheduler.slot index := by
  rw [slotOf, known, Option.elim_some]

/-- A slot is written for its strategy alone. -/
theorem Sound.slotOf_setSlot (slot : FairSizingSlot S) :
    (scheduler.setSlot index slot).slotOf = Function.update scheduler.slotOf strategyId slot := by
  have within := sound.index_lt known
  funext other
  by_cases same : other = strategyId
  · subst same
    have written : (scheduler.setSlot index slot).indexByStrategy[other]? = some index := known
    rw [Function.update_self, slotOf_of_known written]
    simp [setSlot, FairLatestOnlySizingScheduler.slot, within]
  · rw [Function.update_of_ne same]
    unfold slotOf
    change scheduler.indexByStrategy[other]?.elim _ _ = _
    cases found : scheduler.indexByStrategy[other]? with
    | none => rfl
    | some index' =>
      have ne : index ≠ index' := by
        rintro rfl
        have here := (sound.indexed _ _).mp known
        rw [(sound.indexed _ _).mp found] at here
        exact same (Option.some.inj here)
      simp [setSlot, FairLatestOnlySizingScheduler.slot, getElem?_set_ne ne]

/-- The number of running slots when one of them is written. -/
theorem Sound.countP_setSlot (slot : FairSizingSlot S) :
    (scheduler.setSlot index slot).slots.countP (·.running) +
        (if (scheduler.slotOf strategyId).running then 1 else 0) =
      scheduler.running + (if slot.running then 1 else 0) := by
  have within := sound.index_lt known
  have here : scheduler.slot index = scheduler.slots[index] := by
    simp [FairLatestOnlySizingScheduler.slot, within]
  have held : (if scheduler.slots[index].running then 1 else 0) ≤
      scheduler.slots.countP (·.running) := by
    split
    · exact countP_pos_iff.mpr ⟨_, getElem_mem within, ‹_›⟩
    · exact Nat.zero_le _
  rw [slotOf_of_known known, here, sound.counted]
  simp only [setSlot, countP_set within]
  omega

end Known

/-- A written slot keeps the invariant when the count follows. -/
theorem Sound.of_setSlot (sound : scheduler.Sound) (index : Nat) (slot : FairSizingSlot S)
    {cursor running : Nat} (cursorIn : cursor < scheduler.slots.length)
    (counted : running = (scheduler.setSlot index slot).slots.countP (·.running))
    (bounded : running ≤ scheduler.maximumRunning) :
    Sound { scheduler.setSlot index slot with nextIndex := cursor, running := running } where
  sizes := (length_set ..).trans sound.sizes
  cursor := by
    change cursor < (scheduler.slots.set index slot).length
    rwa [length_set]
  indexed := sound.indexed
  counted := counted
  bounded := bounded

/-- A slot `offset` ahead of the cursor may be dispatched. -/
def WaitsAt (scheduler : FairLatestOnlySizingScheduler S) (offset : Nat) : Prop :=
  let slot := scheduler.slot (slotAt scheduler.slots.length scheduler.nextIndex offset)
  slot.running = false ∧ slot.pending ≠ none

variable {offset : Nat}

theorem takeFrom_cons_of_not_waits (offsets : List Nat) (stays : ¬ scheduler.WaitsAt offset) :
    scheduler.takeFrom (offset :: offsets) = scheduler.takeFrom offsets := by
  simp only [WaitsAt, slotAt, not_and_or, Bool.not_eq_false, not_not] at stays
  simp only [takeFrom]
  rcases stays with runs | idle
  · rw [if_pos runs]
  · simp only [idle, ite_self]

theorem takeFrom_cons_of_waits (offsets : List Nat) {snapshot : S}
    (at_ : index = slotAt scheduler.slots.length scheduler.nextIndex offset)
    (idle : (scheduler.slot index).running = false)
    (waiting : (scheduler.slot index).pending = some snapshot) :
    scheduler.takeFrom (offset :: offsets) =
      (some (scheduler.strategyIds.getD index "", snapshot), scheduler.dispatch index) := by
  subst at_
  unfold slotAt at idle waiting ⊢
  simp only [takeFrom, idle, waiting, Bool.false_eq_true, if_false]

/-- The loop stops at the first slot that waits. -/
theorem takeFrom_cases {offsets : List Nat} (ordered : offsets.Pairwise (· < ·)) :
    (scheduler.takeFrom offsets = (none, scheduler) ∧
      ∀ offset ∈ offsets, ¬ scheduler.WaitsAt offset) ∨
    ∃ offset index snapshot, offset ∈ offsets ∧
      index = slotAt scheduler.slots.length scheduler.nextIndex offset ∧
      (∀ passed ∈ offsets, passed < offset → ¬ scheduler.WaitsAt passed) ∧
      (scheduler.slot index).running = false ∧ (scheduler.slot index).pending = some snapshot ∧
      scheduler.takeFrom offsets =
        (some (scheduler.strategyIds.getD index "", snapshot), scheduler.dispatch index) := by
  induction offsets with
  | nil => exact Or.inl ⟨rfl, nofun⟩
  | cons offset offsets ih =>
    obtain ⟨least, later⟩ := pairwise_cons.mp ordered
    by_cases waits : scheduler.WaitsAt offset
    · obtain ⟨idle, waiting⟩ := waits
      obtain ⟨snapshot, waiting⟩ := Option.ne_none_iff_exists'.mp waiting
      refine Or.inr ⟨offset, _, snapshot, mem_cons_self, rfl, ?_, idle, waiting,
        takeFrom_cons_of_waits offsets rfl idle waiting⟩
      intro passed mem before
      rcases mem_cons.mp mem with rfl | mem
      · exact absurd before (lt_irrefl _)
      · exact absurd before (least passed mem).not_gt
    · rw [takeFrom_cons_of_not_waits offsets waits]
      rcases ih later with ⟨nothing, idle⟩ | ⟨found, index, snapshot, mem, at_, before, rest⟩
      · exact Or.inl ⟨nothing, forall_mem_cons.mpr ⟨waits, idle⟩⟩
      · exact Or.inr ⟨found, index, snapshot, mem_cons_of_mem _ mem, at_,
          forall_mem_cons.mpr ⟨fun _ => waits, before⟩, rest⟩

/-- A ready strategy waits where the cursor comes to it. -/
theorem Sound.waitsAt_distance (sound : scheduler.Sound)
    (known : scheduler.indexByStrategy[strategyId]? = some index)
    (ready : scheduler.Ready strategyId) : scheduler.WaitsAt (scheduler.distance strategyId) := by
  have here : slotAt scheduler.slots.length scheduler.nextIndex
      (scheduler.distance strategyId) = index := by
    rw [distance, known, Option.getD_some]
    exact slotAt_ahead sound.cursor (sound.index_lt known)
  unfold Ready at ready
  rw [slotOf_of_known known] at ready
  simp only [WaitsAt, here]
  exact ⟨ready.2, ready.1⟩

theorem Ready.known (ready : scheduler.Ready strategyId) :
    ∃ index, scheduler.indexByStrategy[strategyId]? = some index := by
  cases known : scheduler.indexByStrategy[strategyId]? with
  | none =>
    have empty : (scheduler.slotOf strategyId).pending = none := by
      rw [slotOf, known]
      rfl
    exact absurd empty ready.1
  | some index => exact ⟨index, rfl⟩

theorem Sound.distance_lt (sound : scheduler.Sound) (strategyId : String) :
    scheduler.distance strategyId < scheduler.slots.length := by
  apply ahead_lt sound.cursor
  cases known : scheduler.indexByStrategy[strategyId]? with
  | none => exact Nat.zero_lt_of_lt sound.cursor
  | some index => exact sound.index_lt known

/-- The slot that is dispatched at `offset` is none but the first that waits, so every other ready
strategy comes later, and the cursor has moved towards it. -/
theorem Sound.distance_dispatch (sound : scheduler.Sound)
    (at_ : index = slotAt scheduler.slots.length scheduler.nextIndex offset)
    (first : ∀ passed ∈ range scheduler.slots.length, passed < offset →
      ¬ scheduler.WaitsAt passed) (ready : scheduler.Ready strategyId)
    (other : scheduler.indexByStrategy[strategyId]? ≠ some index) :
    (scheduler.dispatch index).distance strategyId < scheduler.distance strategyId := by
  obtain ⟨own, known⟩ := ready.known
  have ownIn := sound.index_lt known
  have arrives : scheduler.distance strategyId =
      ahead scheduler.slots.length scheduler.nextIndex own := by
    rw [distance, known, Option.getD_some]
  have reached := slotAt_ahead sound.cursor ownIn
  have notBefore : ¬ scheduler.distance strategyId < offset := fun before =>
    first _ (mem_range.mpr (sound.distance_lt strategyId)) before
      (sound.waitsAt_distance known ready)
  have ne : offset ≠ scheduler.distance strategyId := by
    rintro rfl
    rw [at_, arrives, reached] at other
    exact other known
  have onTheWay : offset < ahead scheduler.slots.length scheduler.nextIndex own := by
    omega
  have nearer := ahead_after sound.cursor ownIn onTheWay
  rw [← at_] at nearer
  have moved : (scheduler.dispatch index).distance strategyId =
      ahead scheduler.slots.length
        (slotAt scheduler.slots.length index 1) own := by
    simp [distance, dispatch, setSlot, slotAt, known]
  omega

end Slots

/-! ## What a call does -/

/-- What a call does, read from its answer: the slot of one strategy is written or nothing is, and
the cursor moves only when a job is given out. -/
inductive Effect (before after : FairLatestOnlySizingScheduler S) : SchedulerEvent S → Prop
  | unknownSubmission {strategyId : String} {snapshot : S} {failure : String}
      (unchanged : after = before) : Effect before after (.submitted strategyId snapshot (.error failure))
  | submission {strategyId : String} {snapshot : S} {submission : FairSizingSubmission}
      {replacements : Nat}
      (written : after.slotOf = Function.update before.slotOf strategyId
        ⟨(before.slotOf strategyId).running, some snapshot, replacements⟩)
      (still : after.distance = before.distance) :
      Effect before after (.submitted strategyId snapshot (.ok submission))
  | noJob (unchanged : after = before) : Effect before after (.taken none)
  | job {strategyId : String} {snapshot : S}
      (idle : (before.slotOf strategyId).running = false)
      (waiting : (before.slotOf strategyId).pending = some snapshot)
      (written : after.slotOf = Function.update before.slotOf strategyId
        ⟨true, none, (before.slotOf strategyId).replacements⟩)
      (nearer : ∀ other, other ≠ strategyId → before.Ready other →
        after.distance other < before.distance other) :
      Effect before after (.taken (some (strategyId, snapshot)))
  | refusedCompletion {strategyId : String} {failure : String} (unchanged : after = before) :
      Effect before after (.completed strategyId (.error failure))
  | completion {strategyId : String} (runs : (before.slotOf strategyId).running = true)
      (written : after.slotOf = Function.update before.slotOf strategyId
        { before.slotOf strategyId with running := false })
      (still : after.distance = before.distance) :
      Effect before after (.completed strategyId (.ok ()))

section Calls

variable {scheduler : FairLatestOnlySizingScheduler S}

section

variable (sound : scheduler.Sound)
include sound

theorem Sound.submit_effect (strategyId : String) (snapshot : S) :
    (scheduler.submit strategyId snapshot).2.Sound ∧
      Effect scheduler (scheduler.submit strategyId snapshot).2
        (.submitted strategyId snapshot (scheduler.submit strategyId snapshot).1) := by
  unfold submit
  cases known : scheduler.indexByStrategy[strategyId]? with
  | none => exact ⟨sound, .unknownSubmission rfl⟩
  | some index =>
    simp only
    rw [← slotOf_of_known known]
    have counted := sound.countP_setSlot known ⟨(scheduler.slotOf strategyId).running, some snapshot,
      if (scheduler.slotOf strategyId).pending.isSome then
        saturateNat 64 ((scheduler.slotOf strategyId).replacements + 1)
      else (scheduler.slotOf strategyId).replacements⟩
    refine ⟨sound.of_setSlot index _ sound.cursor (by dsimp only at counted; omega) sound.bounded,
      .submission (sound.slotOf_setSlot known _) ?_⟩
    funext other
    simp [distance, setSlot]

theorem Sound.takeReady_effect :
    scheduler.takeReady.2.Sound ∧
      Effect scheduler scheduler.takeReady.2 (.taken scheduler.takeReady.1) := by
  unfold takeReady
  split
  · exact ⟨sound, .noJob rfl⟩
  · rename_i free
    rcases takeFrom_cases pairwise_lt_range with
      ⟨nothing, -⟩ | ⟨offset, index, snapshot, mem, at_, first, idle, waiting, taken⟩
    · rw [nothing]
      exact ⟨sound, .noJob rfl⟩
    · have within : index < scheduler.slots.length := by
        rw [at_]
        exact slotAt_lt (Nat.zero_lt_of_lt sound.cursor)
      obtain ⟨strategyId, named, known⟩ := sound.exists_strategy within
      have counted := sound.countP_setSlot known
        ⟨true, none, (scheduler.slotOf strategyId).replacements⟩
      have here := slotOf_of_known known
      rw [← here] at idle waiting
      rw [idle] at counted
      have wraps : (index + 1) % scheduler.slots.length < scheduler.slots.length :=
        Nat.mod_lt _ (Nat.zero_lt_of_lt sound.cursor)
      rw [taken, named]
      refine ⟨?_, .job idle waiting ?_ ?_⟩
      · refine sound.of_setSlot index _ wraps ?_ (by omega)
        rw [← here]
        simpa using counted.symm
      · rw [here]
        exact sound.slotOf_setSlot known _
      · intro other ne ready
        refine sound.distance_dispatch at_ first ready fun sameIndex => ne ?_
        have own := (sound.indexed _ _).mp known
        rw [(sound.indexed _ _).mp sameIndex] at own
        exact Option.some.inj own

/-- A free worker is given a job where one is ready. -/
theorem Sound.takeReady_serves {strategyId : String} (ready : scheduler.Ready strategyId)
    (free : scheduler.running < scheduler.maximumRunning) :
    ∃ job, scheduler.takeReady.1 = some job := by
  obtain ⟨index, known⟩ := ready.known
  rw [takeReady, if_neg (not_le.mpr free)]
  rcases takeFrom_cases pairwise_lt_range with
    ⟨-, idle⟩ | ⟨_, _, _, -, -, -, -, -, taken⟩
  · exact absurd (sound.waitsAt_distance known ready)
      (idle _ (mem_range.mpr (sound.distance_lt strategyId)))
  · exact ⟨_, congrArg Prod.fst taken⟩

theorem Sound.complete_effect (strategyId : String) :
    (scheduler.complete strategyId).2.Sound ∧
      Effect scheduler (scheduler.complete strategyId).2
        (.completed strategyId (scheduler.complete strategyId).1) := by
  unfold complete
  cases known : scheduler.indexByStrategy[strategyId]? with
  | none => exact ⟨sound, .refusedCompletion rfl⟩
  | some index =>
    simp only
    rw [← slotOf_of_known known]
    by_cases runs : (scheduler.slotOf strategyId).running = true
    · have counted := sound.countP_setSlot known
        { scheduler.slotOf strategyId with running := false }
      simp only [runs, if_true, Bool.false_eq_true, if_false] at counted
      -- a running slot has been counted, so the count does not underflow
      have positive : checkedSub scheduler.running 1 = some (scheduler.running - 1) :=
        checkedSub_eq_some.mpr ⟨by omega, rfl⟩
      have bounded := sound.bounded
      rw [if_neg (by simp [runs])]
      change (match checkedSub scheduler.running 1 with | none => _ | some _ => _ :
        Except String Unit × FairLatestOnlySizingScheduler S).2.Sound ∧ _
      simp only [setSlot, positive]
      refine ⟨sound.of_setSlot index _ sound.cursor (by omega) (by omega),
        .completion runs (sound.slotOf_setSlot known _) ?_⟩
      funext other
      simp [distance]
    · rw [if_pos (by simpa using runs)]
      exact ⟨sound, .refusedCompletion rfl⟩

/-- What any call does. -/
theorem call_effect (request : SchedulerCall S) :
    (scheduler.call request).2.Sound ∧
      Effect scheduler (scheduler.call request).2 (scheduler.call request).1 := by
  cases request with
  | submit strategyId snapshot => exact sound.submit_effect strategyId snapshot
  | takeReady => exact sound.takeReady_effect
  | complete strategyId => exact sound.complete_effect strategyId

end

end Calls

section Limits

variable (scheduler : FairLatestOnlySizingScheduler S)

theorem takeReady_limits : scheduler.takeReady.2.maximumRunning = scheduler.maximumRunning ∧
    scheduler.takeReady.2.slots.length = scheduler.slots.length := by
  unfold takeReady
  split
  · exact ⟨rfl, rfl⟩
  · rcases takeFrom_cases pairwise_lt_range with
      ⟨nothing, -⟩ | ⟨_, _, _, -, -, -, -, -, taken⟩
    · rw [nothing]
      exact ⟨rfl, rfl⟩
    · rw [taken]
      exact ⟨rfl, length_set⟩

/-- No call changes the limit or the number of slots. -/
theorem call_limits (request : SchedulerCall S) :
    (scheduler.call request).2.maximumRunning = scheduler.maximumRunning ∧
      (scheduler.call request).2.slots.length = scheduler.slots.length := by
  cases request with
  | submit strategyId snapshot =>
    simp only [call, submit]
    split
    · exact ⟨rfl, rfl⟩
    · exact ⟨rfl, length_set⟩
  | takeReady => exact scheduler.takeReady_limits
  | complete strategyId =>
    simp only [call, complete]
    split
    · exact ⟨rfl, rfl⟩
    · split
      · exact ⟨rfl, rfl⟩
      · split
        · exact ⟨rfl, length_set⟩
        · exact ⟨rfl, length_set⟩

end Limits

/-! ## Runs -/

/-- How the slots follow from the calls: a strategy waits with its last snapshot that no job has
taken, and runs while one of its jobs has not been completed. -/
structure Recorded (past : List (SchedulerEvent S)) (scheduler : FairLatestOnlySizingScheduler S) :
    Prop where
  sound : scheduler.Sound
  waits : ∀ strategyId, (scheduler.slotOf strategyId).pending =
    past.foldl (unserved strategyId) none
  jobs : ∀ strategyId, past.countP (serves strategyId) =
    past.countP (completes strategyId) +
      if (scheduler.slotOf strategyId).running then 1 else 0

section Recorded

variable {past : List (SchedulerEvent S)} {event : SchedulerEvent S}
  {before after : FairLatestOnlySizingScheduler S}

/-- What waits for a strategy changes as the answer says. -/
theorem Effect.pending (effect : Effect before after event) (strategyId : String) :
    (after.slotOf strategyId).pending =
      event.unserved strategyId (before.slotOf strategyId).pending := by
  cases effect with
  | unknownSubmission unchanged | noJob unchanged | refusedCompletion unchanged =>
    rw [unchanged]
    rfl
  | @submission id _ _ _ written _ | @job id _ _ _ written _ | @completion id _ written _ =>
    rw [written]
    by_cases same : strategyId = id
    · subst same
      simp [unserved]
    · rw [Function.update_of_ne same]
      simp [unserved, Ne.symm same]

/-- A job starts where none runs, and a completion ends one that does. -/
theorem Effect.running (effect : Effect before after event) (strategyId : String) :
    (if event.serves strategyId then 1 else 0) +
        (if (before.slotOf strategyId).running then 1 else 0) =
      (if event.completes strategyId then 1 else 0) +
        if (after.slotOf strategyId).running then 1 else 0 := by
  cases effect with
  | unknownSubmission unchanged | noJob unchanged | refusedCompletion unchanged =>
    rw [unchanged]
    rfl
  | @submission id _ _ _ written _ | @job id _ idle _ written _ | @completion id runs written _ =>
    rw [written]
    by_cases same : strategyId = id
    · subst same
      simp_all [serves, completes]
    · rw [Function.update_of_ne same]
      simp [serves, completes, Ne.symm same]

theorem Recorded.step (recorded : Recorded past before) (sound : after.Sound)
    (effect : Effect before after event) : Recorded (past ++ [event]) after where
  sound := sound
  waits strategyId := by
    rw [foldl_append, ← recorded.waits strategyId]
    exact effect.pending strategyId
  jobs strategyId := by
    have jobs := recorded.jobs strategyId
    have running := effect.running strategyId
    rw [countP_append, countP_append, countP_singleton, countP_singleton]
    omega

/-- A snapshot that waits was submitted, and neither a later one nor a job has taken its place. -/
theorem exists_submission {strategyId : String} {snapshot : S}
    (waits : past.foldl (unserved strategyId) none = some snapshot) :
    ∃ earlier submission between,
      past = earlier ++ .submitted strategyId snapshot (.ok submission) :: between ∧
      ∀ event ∈ between, event.submits strategyId = false ∧ event.serves strategyId = false := by
  induction past using reverseRecOn with
  | nil => simp at waits
  | append_singleton past event ih =>
    rw [foldl_append, foldl_cons, foldl_nil] at waits
    -- an event that does not concern the strategy leaves the split before it
    have skips (quiet : event.submits strategyId = false ∧ event.serves strategyId = false)
        (same : event.unserved strategyId (past.foldl (unserved strategyId) none) =
          past.foldl (unserved strategyId) none) :
        ∃ earlier submission between,
          past ++ [event] = earlier ++ .submitted strategyId snapshot (.ok submission) :: between ∧
          ∀ event ∈ between,
            event.submits strategyId = false ∧ event.serves strategyId = false := by
      obtain ⟨earlier, submission, between, split, others⟩ := ih (same.symm.trans waits)
      exact ⟨earlier, submission, between ++ [event], by simp [split],
        forall_mem_append.mpr ⟨others, forall_mem_singleton.mpr quiet⟩⟩
    rcases event with ⟨id, submitted, _ | submission⟩ | (_ | ⟨id, taken⟩) | ⟨id, outcome⟩
    · exact skips ⟨rfl, rfl⟩ rfl
    · by_cases same : id = strategyId
      · subst same
        simp only [unserved, if_true, Option.some.injEq] at waits
        exact ⟨past, submission, [], by rw [waits], by simp⟩
      · exact skips (by simp [submits, serves, same])
          (by simp [unserved, same])
    · exact skips ⟨rfl, rfl⟩ rfl
    · by_cases same : id = strategyId
      · simp [unserved, same] at waits
      · exact skips (by simp [submits, serves, same])
          (by simp [unserved, same])
    · exact skips ⟨rfl, rfl⟩ rfl

/-- While a strategy waits for its turn, each job of another one brings it nearer. -/
theorem Effect.distance_le {strategyId : String} (effect : Effect before after event)
    (ready : before.Ready strategyId) (passed : event.serves strategyId = false) :
    after.Ready strategyId ∧
      after.distance strategyId + (if event.servesAny then 1 else 0) ≤
        before.distance strategyId := by
  cases effect with
  | unknownSubmission unchanged | noJob unchanged | refusedCompletion unchanged =>
    rw [unchanged]
    exact ⟨ready, le_rfl⟩
  | @submission id _ _ _ written still =>
    rw [still]
    refine ⟨?_, le_rfl⟩
    unfold Ready
    rw [written]
    by_cases same : strategyId = id
    · subst same
      simpa using ready.2
    · rwa [Function.update_of_ne same]
  | @job id _ _ _ written nearer =>
    have ne : strategyId ≠ id := by
      rintro rfl
      simp [serves] at passed
    refine ⟨?_, nearer strategyId ne ready⟩
    unfold Ready
    rwa [written, Function.update_of_ne ne]
  | @completion id runs written still =>
    have ne : strategyId ≠ id := by
      rintro rfl
      exact absurd ready.2 (by simp [runs])
    rw [still]
    refine ⟨?_, le_rfl⟩
    unfold Ready
    rwa [written, Function.update_of_ne ne]

end Recorded

section Construction

theorem indexStrategies_spec {indexByStrategy result : Std.TreeMap String Nat}
    {entered strategyIds : List String}
    (indexed : ∀ (strategyId : String) (index : Nat),
      indexByStrategy[strategyId]? = some index ↔ entered[index]? = some strategyId)
    (built : indexStrategies indexByStrategy entered.length strategyIds = .ok result)
    (strategyId : String) (index : Nat) :
    result[strategyId]? = some index ↔ (entered ++ strategyIds)[index]? = some strategyId := by
  induction strategyIds generalizing indexByStrategy entered with
  | nil =>
    cases built
    rw [append_nil]
    exact indexed strategyId index
  | cons head strategyIds ih =>
    simp only [indexStrategies, bind_eq_ok, require_eq_ok, exists_const] at built
    obtain ⟨fresh, built⟩ := built
    have absent : ∀ index : Nat, entered[index]? ≠ some head := by
      intro index there
      exact fresh (Std.TreeMap.mem_iff_isSome_getElem?.mpr
        (Option.isSome_iff_exists.mpr ⟨index, (indexed head index).mpr there⟩))
    have next := @ih (indexByStrategy.insert head entered.length) (entered ++ [head]) ?_ ?_
    · rwa [append_assoc, singleton_append] at next
    · intro strategyId index
      rw [Std.TreeMap.getElem?_insert, getElem?_append]
      by_cases same : head = strategyId
      · subst same
        simp only [Std.LawfulEqOrd.compare_eq_iff_eq, if_true, Option.some.injEq]
        constructor
        · rintro rfl
          simp
        · split
          · intro there
            exact absurd there (absent index)
          · intro there
            have zero : index - entered.length = 0 := by
              by_contra positive
              simp [positive] at there
            omega
      · simp only [Std.LawfulEqOrd.compare_eq_iff_eq, same, if_false, indexed]
        split
        · rfl
        · rename_i beyond
          simp only [getElem?_eq_none (not_lt.mp beyond), getElem?_singleton]
          split <;> simp [same]
    · simpa using built

/-- A new scheduler has recorded nothing. -/
theorem recorded_of_new {strategyIds : List String} {maximumRunning : Nat}
    {start : FairLatestOnlySizingScheduler S} (built : new strategyIds maximumRunning = .ok start) :
    Recorded [] start ∧ start.slots.length = strategyIds.length := by
  simp only [new, bind_eq_ok, require_eq_ok, pure_eq_ok, exists_const] at built
  obtain ⟨-, nonempty, indexByStrategy, indexes, -, rfl⟩ := built
  have vacant (strategyId : String) : slotOf (S := S) ⟨strategyIds.insertionSort (· ≤ ·),
      indexByStrategy, (strategyIds.insertionSort (· ≤ ·)).map fun _ => .vacant, 0, 0,
      maximumRunning⟩ strategyId = .vacant := by
    unfold slotOf FairLatestOnlySizingScheduler.slot
    cases indexByStrategy[strategyId]? with
    | none => rfl
    | some index =>
      simp only [Option.elim_some, map_const', getD_eq_getElem?_getD,
        getElem?_replicate]
      split <;> rfl
  refine ⟨⟨⟨?_, ?_, ?_, ?_, Nat.zero_le _⟩, ?_, ?_⟩, ?_⟩
  · simp
  · simpa [length_pos_iff] using nonempty
  · simpa using @indexStrategies_spec ∅ _ [] _ (by simp) indexes
  · simp [FairSizingSlot.vacant, countP_replicate]
  · intro strategyId
    rw [vacant]
    rfl
  · intro strategyId
    rw [vacant]
    rfl
  · simp

end Construction

/-- The scheduler over every sequence of calls: the workers are counted and never too many, no
strategy has two of them, a job is for the latest snapshot of its strategy and each snapshot is
given out once, a free worker is given a job while a strategy waits, and that strategy is not passed
over by more than all the others. -/
structure FairLatestOnly (start : FairLatestOnlySizingScheduler S) (strategyCount : Nat) : Prop where
  workers : ∀ calls, (final call start calls).running =
      (final call start calls).slots.countP (·.running) ∧
    (final call start calls).running ≤ start.maximumRunning
  exclusive : ∀ calls strategyId,
    (outputs call start calls).countP (serves strategyId) ≤
      (outputs call start calls).countP (completes strategyId) + 1
  latest : ∀ calls past strategyId snapshot later,
    outputs call start calls = past ++ .taken (some (strategyId, snapshot)) :: later →
    ∃ earlier submission between,
      past = earlier ++ .submitted strategyId snapshot (.ok submission) :: between ∧
      ∀ event ∈ between, event.submits strategyId = false ∧ event.serves strategyId = false
  served : ∀ calls strategyId, (final call start calls).Ready strategyId →
    (final call start calls).running < start.maximumRunning →
    ∃ job, (call (final call start calls) .takeReady).1 = .taken (some job)
  prompt : ∀ calls strategyId, (final call start calls).Ready strategyId →
    ∀ more, (∀ event ∈ outputs call (final call start calls) more,
        event.serves strategyId = false) →
      (outputs call (final call start calls) more).countP servesAny ≤
        strategyCount - 1

/-- The limit and the number of slots are those of the start. -/
theorem final_limits (start : FairLatestOnlySizingScheduler S) (calls : List (SchedulerCall S)) :
    (final call start calls).maximumRunning = start.maximumRunning ∧
      (final call start calls).slots.length = start.slots.length := by
  apply final_invariant (I := fun scheduler : FairLatestOnlySizingScheduler S =>
    scheduler.maximumRunning = start.maximumRunning ∧
      scheduler.slots.length = start.slots.length) ?_ ⟨rfl, rfl⟩
  intro scheduler request limits
  obtain ⟨maximum, length⟩ := call_limits scheduler request
  exact ⟨maximum.trans limits.1, length.trans limits.2⟩

/-- A strategy that waits is served before the others have had one turn each. -/
theorem countP_servesAny_le {scheduler : FairLatestOnlySizingScheduler S} (sound : scheduler.Sound)
    {strategyId : String} (ready : scheduler.Ready strategyId) {calls : List (SchedulerCall S)}
    (passed : ∀ event ∈ outputs call scheduler calls, event.serves strategyId = false) :
    (outputs call scheduler calls).countP servesAny ≤
      scheduler.distance strategyId := by
  apply countP_outputs_le_rank (fun scheduler => scheduler.distance strategyId)
    (I := fun scheduler => scheduler.Sound ∧ scheduler.Ready strategyId) ?_ ⟨sound, ready⟩ passed
  rintro scheduler request ⟨sound, ready⟩ passes
  obtain ⟨kept, effect⟩ := call_effect sound request
  obtain ⟨waits, nearer⟩ := effect.distance_le ready passes
  exact ⟨⟨kept, waits⟩, nearer⟩

/-- A scheduler keeps to that from the moment it is built. -/
theorem fair_latest_only {strategyIds : List String} {maximumRunning : Nat}
    {start : FairLatestOnlySizingScheduler S} (built : new strategyIds maximumRunning = .ok start) :
    start.FairLatestOnly strategyIds.length := by
  obtain ⟨fresh, length⟩ := recorded_of_new built
  have recorded (calls : List (SchedulerCall S)) :
      Recorded (outputs call start calls) (final call start calls) := by
    refine history_invariant ?_ fresh calls
    intro past scheduler request held
    obtain ⟨sound, effect⟩ := call_effect held.sound request
    exact held.step sound effect
  refine ⟨?_, ?_, ?_, ?_, ?_⟩
  · intro calls
    have sound := (recorded calls).sound
    exact ⟨sound.counted, sound.bounded.trans (final_limits start calls).1.le⟩
  · intro calls strategyId
    rw [(recorded calls).jobs strategyId]
    split <;> omega
  · intro calls past strategyId snapshot later answered
    obtain ⟨before, request, -, rfl, served⟩ := outputs_eq_append_cons answered
    have effect := (call_effect (recorded before).sound request).2
    rw [← served] at effect
    cases effect with
    | job idle waiting written nearer =>
      exact exists_submission (((recorded before).waits strategyId).symm.trans waiting)
  · intro calls strategyId ready free
    rw [← (final_limits start calls).1] at free
    obtain ⟨job, taken⟩ := (recorded calls).sound.takeReady_serves ready free
    exact ⟨job, congrArg SchedulerEvent.taken taken⟩
  · intro calls strategyId ready more passed
    have sound := (recorded calls).sound
    have turns := countP_servesAny_le sound ready passed
    have near := sound.distance_lt strategyId
    rw [(final_limits start calls).2, length] at near
    omega

/-- Two strategies share one worker, with the answer to each call: the later snapshot of the second
is served when the first has completed. -/
def sharedWorker : List (SchedulerCall Nat × SchedulerEvent Nat) :=
  [(.submit "strategy:wld" 1, .submitted "strategy:wld" 1 (.ok ⟨false, false⟩)),
    (.submit "strategy:esp" 2, .submitted "strategy:esp" 2 (.ok ⟨false, false⟩)),
    (.takeReady, .taken (some ("strategy:esp", 2))),
    (.submit "strategy:wld" 3, .submitted "strategy:wld" 3 (.ok ⟨true, false⟩)),
    (.takeReady, .taken none),
    (.complete "strategy:esp", .completed "strategy:esp" (.ok ())),
    (.takeReady, .taken (some ("strategy:wld", 3)))]

theorem fair_latest_only_for_two :
    ∃ start : FairLatestOnlySizingScheduler Nat,
      new ["strategy:wld", "strategy:esp"] 1 = .ok start ∧
        outputs call start (sharedWorker.map Prod.fst) = sharedWorker.map Prod.snd ∧
        start.FairLatestOnly 2 := by
  have ran : (new (S := Nat) ["strategy:wld", "strategy:esp"] 1).map (fun start =>
      outputs call start (sharedWorker.map Prod.fst)) = .ok (sharedWorker.map Prod.snd) := by
    decide +kernel
  cases built : new (S := Nat) ["strategy:wld", "strategy:esp"] 1 with
  | error failure => rw [built] at ran; cases ran
  | ok start =>
    rw [built] at ran
    exact ⟨start, rfl, Except.ok.inj ran, fair_latest_only built⟩

end FairLatestOnlySizingScheduler

end PolyBot.Strategy
