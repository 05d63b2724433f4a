import PolyBot.Dex.FeeHydration
import PolyBot.Lib.Refine

/-!
# Fees from a part of the timepoints

The bot projects fees from the slots it has read, the pool from all of them.  A state that holds
every timepoint of the ring is followed here beside one that holds a part of them, through the same
events.

* `RingOrdered`: along the ring, from the slot after the latest one, the written timestamps rise;
  a write keeps that.
* `Covered`: the held points contain the two next to the start of the window, and the slot after the
  next one to be written when the ring has it.
* `feesAt_of_covered`: where that is so, a fee projected from the held points is the fee of the
  complete ring.
* `envelope_of_covered`: the same for an envelope all of whose seconds are covered.
-/

namespace PolyBot.Dex

open FeeProjectionState OkLe Std

/-- The same state with other held points. -/
def FeeProjectionState.holding (state : FeeProjectionState)
    (points : TreeMap Nat Timepoint) : FeeProjectionState :=
  { state with timepoints := points }

/-- Every held point is the one of the complete map. -/
def HeldIn (held complete : TreeMap Nat Timepoint) : Prop :=
  ∀ (slot : Nat) (point : Timepoint), held[slot]? = some point → complete[slot]? = some point

/-- The written points of a state are stored in slots of the ring, and along the ring each is older
than the one in the next slot, up to the latest. -/
structure RingOrdered (state : FeeProjectionState) : Prop where
  index_lt : state.index < ringSize
  slot_lt : ∀ (slot : Nat) (point : Timepoint), state.timepoints[slot]? = some point → slot < ringSize
  rising : ∀ (slot : Nat) (point : Timepoint), slot ≠ state.index → state.timepoints[slot]? = some point →
    point.initialized = true → ∃ next, state.timepoints[nextSlot slot]? = some next ∧
      next.initialized = true ∧ point.blockTimestamp < next.blockTimestamp

/-- The held points contain the newest point at or before `target` and the oldest at or after it. -/
structure Bracketed (held : TreeMap Nat Timepoint) (state : FeeProjectionState)
    (target : Nat) : Prop where
  before : ∀ point ∈ state.points, point.blockTimestamp ≤ target →
    (∀ other ∈ state.points, other.blockTimestamp ≤ target →
      other.blockTimestamp ≤ point.blockTimestamp) → point ∈ (state.holding held).points
  after : ∀ point ∈ state.points, target ≤ point.blockTimestamp →
    (∀ other ∈ state.points, target ≤ other.blockTimestamp →
      point.blockTimestamp ≤ other.blockTimestamp) → point ∈ (state.holding held).points

/-- The held points suffice for the fee at `timestamp`: they bracket the start of the window, and if
the ring has a written point in the slot after the next one to be written, they contain it. -/
structure Covered (held : TreeMap Nat Timepoint) (state : FeeProjectionState)
    (timestamp : Nat) : Prop where
  bracketed : Bracketed held state (windowStart timestamp)
  successor : initializedAt state.timepoints (nextSlot (nextSlot state.index)) = true →
    initializedAt held (nextSlot (nextSlot state.index)) = true

/-! ## The points of a state -/

variable {state next : FeeProjectionState} {held complete : TreeMap Nat Timepoint}
  {point : Timepoint}

theorem mem_points_iff :
    point ∈ state.points ↔
      point.initialized = true ∧ ∃ slot : Nat, state.timepoints[slot]? = some point := by
  unfold points
  rw [List.mem_filter, List.mem_map]
  constructor
  · rintro ⟨⟨⟨slot, stored⟩, entry, rfl⟩, written⟩
    exact ⟨written, slot, TreeMap.mem_toList_iff_getElem?_eq_some.mp entry⟩
  · rintro ⟨written, slot, stored⟩
    exact ⟨⟨(slot, point), TreeMap.mem_toList_iff_getElem?_eq_some.mpr stored, rfl⟩, written⟩

theorem HeldIn.mem_points (heldIn : HeldIn held state.timepoints)
    (mem : point ∈ (state.holding held).points) : point ∈ state.points := by
  obtain ⟨written, slot, stored⟩ := mem_points_iff.mp mem
  exact mem_points_iff.mpr ⟨written, slot, heldIn slot point stored⟩

theorem HeldIn.initializedAt (heldIn : HeldIn held complete)
    (written : initializedAt held slot = true) :
    FeeProjectionState.initializedAt complete slot = true := by
  unfold FeeProjectionState.initializedAt at written ⊢
  cases stored : held[slot]? with
  | none => simp [stored] at written
  | some point =>
    rw [heldIn slot point stored]
    simpa [stored] using written

theorem HeldIn.insert (heldIn : HeldIn held complete) (slot : Nat) (point : Timepoint) :
    HeldIn (held.insert slot point) (complete.insert slot point) := by
  intro other stored found
  rw [TreeMap.getElem?_insert] at found ⊢
  split at found
  · rename_i same
    rw [if_pos same]
    exact found
  · rename_i other
    rw [if_neg other]
    exact heldIn _ _ found

/-! ## The order of the ring -/

/-- How many slots before the latest one a slot lies. -/
def slotsBehind (index slot : Nat) : Nat :=
  (index + ringSize - slot) % ringSize

variable {index slot a b : Nat}

theorem slotsBehind_next (inRing : index < ringSize) (slotIn : slot < ringSize) (ne : slot ≠ index) :
    slotsBehind index (nextSlot slot) + 1 = slotsBehind index slot := by
  unfold slotsBehind nextSlot ringSize at *
  omega

theorem slotsBehind_injective (inRing : index < ringSize) (aIn : a < ringSize) (bIn : b < ringSize)
    (same : slotsBehind index a = slotsBehind index b) : a = b := by
  unfold slotsBehind ringSize at *
  omega

theorem slotsBehind_self : slotsBehind index index = 0 := by
  unfold slotsBehind ringSize
  omega

/-- The slot after the latest one is the furthest behind. -/
theorem slotsBehind_lt_nextSlot (inRing : index < ringSize) (slotIn : slot < ringSize)
    (ne : slot ≠ nextSlot index) : slotsBehind index slot < slotsBehind index (nextSlot index) := by
  unfold slotsBehind nextSlot ringSize at *
  omega

namespace RingOrdered

variable {pointA pointB : Timepoint} (ordered : RingOrdered state)
include ordered

/-- A written point further behind is older. -/
theorem older (storedA : state.timepoints[a]? = some pointA)
    (writtenA : pointA.initialized = true) (storedB : state.timepoints[b]? = some pointB)
    (behind : slotsBehind state.index b < slotsBehind state.index a) :
    pointA.blockTimestamp < pointB.blockTimestamp := by
  -- by induction on the distance of the older slot, one slot at a time towards the latest
  induction distance : slotsBehind state.index a generalizing a pointA with
  | zero => omega
  | succ n ih =>
    have inA := ordered.slot_lt a pointA storedA
    have inB := ordered.slot_lt b pointB storedB
    have notLatest : a ≠ state.index := by
      rintro rfl
      rw [slotsBehind_self] at distance
      cases distance
    obtain ⟨next, storedNext, writtenNext, rises⟩ := ordered.rising a pointA notLatest storedA writtenA
    have step := slotsBehind_next ordered.index_lt inA notLatest
    by_cases reached : slotsBehind state.index b = slotsBehind state.index (nextSlot a)
    · have same := slotsBehind_injective ordered.index_lt inB (nextSlot_lt a) reached
      rw [same, storedNext] at storedB
      cases storedB
      exact rises
    · have later := ih storedNext writtenNext (by omega) (by omega)
      omega

/-- A written point is stored once. -/
theorem slot_unique {point : Timepoint}
    (storedA : state.timepoints[a]? = some point) (storedB : state.timepoints[b]? = some point)
    (written : point.initialized = true) : a = b := by
  refine slotsBehind_injective ordered.index_lt (ordered.slot_lt a _ storedA)
    (ordered.slot_lt b _ storedB) ?_
  rcases Nat.lt_trichotomy (slotsBehind state.index a) (slotsBehind state.index b) with lt | eq | gt
  · exact absurd (ordered.older storedB written storedA lt) (Nat.lt_irrefl _)
  · exact eq
  · exact absurd (ordered.older storedA written storedB gt) (Nat.lt_irrefl _)

/-- No two written points have one timestamp. -/
theorem unique (memA : pointA ∈ state.points)
    (memB : pointB ∈ state.points) (same : pointA.blockTimestamp = pointB.blockTimestamp) :
    pointA = pointB := by
  obtain ⟨writtenA, a, storedA⟩ := mem_points_iff.mp memA
  obtain ⟨writtenB, b, storedB⟩ := mem_points_iff.mp memB
  rcases Nat.lt_trichotomy (slotsBehind state.index a) (slotsBehind state.index b) with lt | eq | gt
  · have := ordered.older storedB writtenB storedA lt
    omega
  · have sameSlot := slotsBehind_injective ordered.index_lt (ordered.slot_lt a _ storedA)
      (ordered.slot_lt b _ storedB) eq
    rw [sameSlot, storedB] at storedA
    exact (Option.some.inj storedA).symm
  · have := ordered.older storedA writtenA storedB gt
    omega

end RingOrdered

/-! ## Lookups in the held points -/

theorem any_of_heldIn (heldIn : HeldIn held complete)
    {p : Timepoint → Bool} (has : held[slot]?.any p = true) : complete[slot]?.any p = true := by
  cases stored : held[slot]? with
  | none => simp [stored] at has
  | some point =>
    rw [heldIn slot point stored]
    simpa [stored] using has

section

variable (heldIn : HeldIn held state.timepoints)
include heldIn

theorem validate_le : OkLe (state.holding held).validate state.validate := by
  unfold validate
  refine bind (refl _) fun _ _ => ?_
  refine bind (refl _) fun _ _ => ?_
  refine bind (refl _) fun _ _ => ?_
  refine bind (guard (any_of_heldIn heldIn)) fun _ _ => ?_
  exact guard heldIn.initializedAt

theorem latest_le : OkLe (state.holding held).latest state.latest :=
  lookup (heldIn _)

theorem previousTick_le (last : Timepoint) :
    OkLe ((state.holding held).previousTick last) (state.previousTick last) := by
  unfold previousTick
  refine ite (fun _ => refl _) fun _ => ?_
  refine bind (lookup (heldIn _)) fun previous _ => ?_
  exact refl _

variable (ordered : RingOrdered state) {target timestamp : Nat}
include ordered

/-- Held points that bracket a target give the complete map's point there. -/
theorem bracketedTimepoint_eq (bracketed : Bracketed held state target) :
    bracketedTimepoint (state.holding held).points target =
      bracketedTimepoint state.points target := by
  have newest : newestBefore target (state.holding held).points =
      newestBefore target state.points := by
    refine scanBest_eq_of_subset (fun point => (point.blockTimestamp : Int)) ?_ ?_ ?_ ?_
    · intro x y
      simp
    · exact fun point mem => heldIn.mem_points mem
    · intro x memX y memY same
      exact ordered.unique memX memY (by simpa using same)
    · rintro best ⟨mem, admitted, beats⟩
      refine bracketed.before best mem (by simpa using admitted) ?_
      intro other memOther le
      simpa using beats other memOther (by simpa using le)
  have oldest : oldestAfter target (state.holding held).points =
      oldestAfter target state.points := by
    refine scanBest_eq_of_subset (fun point => -(point.blockTimestamp : Int)) ?_ ?_ ?_ ?_
    · intro x y
      simp
    · exact fun point mem => heldIn.mem_points mem
    · intro x memX y memY same
      exact ordered.unique memX memY (by omega)
    · rintro best ⟨mem, admitted, beats⟩
      refine bracketed.after best mem (by simpa using admitted) ?_
      intro other memOther le
      have rank := beats other memOther (by simpa using le)
      simp only at rank
      omega
  unfold bracketedTimepoint
  rw [newest, oldest]

theorem averageTickForNewTimepoint_le
    (bracketed : Bracketed held state (windowStart timestamp)) (last : Timepoint) :
    OkLe ((state.holding held).averageTickForNewTimepoint timestamp last)
      (state.averageTickForNewTimepoint timestamp last) := by
  unfold averageTickForNewTimepoint
  refine bind (lookup (heldIn _)) fun oldest _ => ?_
  refine bind ?_ fun _ _ => refl _
  unfold windowTick
  refine ite (fun _ => ?_) fun _ => refl _
  refine ite (fun _ => ?_) fun _ => ?_
  · refine bind (lookup (heldIn _)) fun previous _ => ?_
    exact refl _
  · rw [bracketedTimepoint_eq heldIn ordered bracketed]
    exact refl _

theorem pointAt_le
    (bracketed : Bracketed held state (windowStart timestamp)) (last : Timepoint) :
    OkLe ((state.holding held).pointAt last timestamp) (state.pointAt last timestamp) := by
  unfold pointAt
  refine bind (averageTickForNewTimepoint_le heldIn ordered bracketed last) fun _ _ => ?_
  refine bind (previousTick_le heldIn last) fun _ _ => ?_
  exact refl _

end

/-! ## Writing the next point -/

theorem nextSlot_ne (slot : Nat) : nextSlot slot ≠ slot := by
  unfold nextSlot ringSize at *
  omega

theorem nextSlot_injective (aIn : a < ringSize) (bIn : b < ringSize)
    (same : nextSlot a = nextSlot b) : a = b := by
  unfold nextSlot ringSize at *
  omega

theorem getElem?_insert_self (points : TreeMap Nat Timepoint) (slot : Nat)
    (point : Timepoint) : (points.insert slot point)[slot]? = some point := by
  simp

variable {other timestamp : Nat} {last : Timepoint}

theorem getElem?_insert_of_ne (points : TreeMap Nat Timepoint) (point : Timepoint)
    (ne : other ≠ slot) : (points.insert slot point)[other]? = points[other]? := by
  rw [TreeMap.getElem?_insert, if_neg]
  intro same
  exact ne (Std.LawfulEqOrd.eq_of_compare same).symm

theorem initializedAt_insert_of_ne (points : TreeMap Nat Timepoint) (point : Timepoint)
    (ne : other ≠ slot) :
    initializedAt (points.insert slot point) other = initializedAt points other := by
  unfold initializedAt
  rw [getElem?_insert_of_ne points point ne]

/-- A new point is written with its own timestamp. -/
theorem createNewTimepoint_spec {liquidity volume : Nat} {tick previousTick averageTick : Int}
    (created : createNewTimepoint last timestamp tick previousTick liquidity averageTick volume =
      .ok point) :
    point.initialized = true ∧ point.blockTimestamp = timestamp ∧
      last.blockTimestamp < timestamp := by
  simp only [createNewTimepoint, bind_eq_ok, orError_eq_ok, require_eq_ok, pure_eq_ok] at created
  obtain ⟨delta, elapsed, _, nonzero, _, _, _, _, _, _, rfl⟩ := created
  refine ⟨rfl, rfl, ?_⟩
  unfold checkedSub at elapsed
  split at elapsed
  · cases elapsed
    omega
  · cases elapsed

theorem pointAt_spec {state : FeeProjectionState}
    (projected : state.pointAt last timestamp = .ok point) :
    point.initialized = true ∧ point.blockTimestamp = timestamp ∧
      last.blockTimestamp < timestamp := by
  simp only [pointAt, bind_eq_ok] at projected
  obtain ⟨_, _, _, _, created⟩ := projected
  exact createNewTimepoint_spec created

section Write

/-- What a write changes. -/
theorem written_spec (wrote : state.written point = .ok next) :
    ∃ oldestIndex, next = { state with
        index := nextSlot state.index
        timepoints := state.timepoints.insert (nextSlot state.index) point
        oldestIndex := oldestIndex } ∧
      oldestIndex = (if initializedAt state.timepoints (nextSlot (nextSlot state.index)) then
        nextSlot (nextSlot state.index) else 0) := by
  simp only [written, oldestIndexAfterWrite, bind_eq_ok, require_eq_ok, pure_eq_ok] at wrote
  obtain ⟨oldestIndex, ⟨_, _, rfl⟩, rfl⟩ := wrote
  refine ⟨_, rfl, ?_⟩
  rw [initializedAt_insert_of_ne _ _ (nextSlot_ne _)]

/-- A write into held points that have the slot after it, where the ring has it, is the write into
the complete ones. -/
theorem written_holding (heldIn : HeldIn held state.timepoints)
    (successor : initializedAt state.timepoints (nextSlot (nextSlot state.index)) = true →
      initializedAt held (nextSlot (nextSlot state.index)) = true)
    {sparse : FeeProjectionState} (wrote : (state.holding held).written point = .ok sparse) :
    ∃ next, state.written point = .ok next ∧
      sparse = next.holding (held.insert (nextSlot state.index) point) := by
  have ne := nextSlot_ne (nextSlot state.index)
  have same : initializedAt (held.insert (nextSlot state.index) point)
      (nextSlot (nextSlot state.index)) =
      initializedAt (state.timepoints.insert (nextSlot state.index) point)
        (nextSlot (nextSlot state.index)) := by
    rw [initializedAt_insert_of_ne _ _ ne, initializedAt_insert_of_ne _ _ ne]
    rw [Bool.eq_iff_iff]
    exact ⟨heldIn.initializedAt, successor⟩
  simp only [written, oldestIndexAfterWrite, holding, bind_eq_ok, require_eq_ok, pure_eq_ok]
    at wrote ⊢
  obtain ⟨oldestIndex, ⟨_, available, rfl⟩, rfl⟩ := wrote
  simp only [same, require_eq_ok] at available ⊢
  exact ⟨_, ⟨_, ⟨(), (heldIn.insert _ _).initializedAt available, rfl⟩, rfl⟩, rfl⟩

variable {last : Timepoint}

theorem RingOrdered.write (ordered : RingOrdered state)
    (latest : state.timepoints[state.index]? = some last) (written : point.initialized = true)
    (newer : last.blockTimestamp < point.blockTimestamp) (wrote : state.written point = .ok next) :
    RingOrdered next := by
  obtain ⟨oldestIndex, rfl, _⟩ := written_spec wrote
  refine ⟨nextSlot_lt _, ?_, ?_⟩
  · intro slot stored found
    by_cases same : slot = nextSlot state.index
    · rw [same]
      exact nextSlot_lt _
    · rw [getElem?_insert_of_ne _ _ same] at found
      exact ordered.slot_lt slot stored found
  · intro slot stored notLatest found storedWritten
    simp only at notLatest found
    rw [getElem?_insert_of_ne _ _ notLatest] at found
    have inRing := ordered.slot_lt slot stored found
    -- the slot before the written one is the old latest; every other pair is as it was
    by_cases old : slot = state.index
    · subst old
      rw [latest] at found
      cases found
      exact ⟨point, getElem?_insert_self _ _ _, written, newer⟩
    · have different : nextSlot slot ≠ nextSlot state.index :=
        fun same => old (nextSlot_injective inRing ordered.index_lt same)
      obtain ⟨following, storedNext, writtenNext, rises⟩ :=
        ordered.rising slot stored old found storedWritten
      refine ⟨following, ?_, writtenNext, rises⟩
      simp only
      rw [getElem?_insert_of_ne _ _ different]
      exact storedNext

/-- No written point is newer than the latest. -/
theorem RingOrdered.le_latest (ordered : RingOrdered state)
    (latest : state.timepoints[state.index]? = some last) {stored : Timepoint}
    (found : state.timepoints[slot]? = some stored) (written : stored.initialized = true) :
    stored.blockTimestamp ≤ last.blockTimestamp := by
  by_cases same : slot = state.index
  · rw [same, latest] at found
    cases found
    exact Nat.le_refl _
  · have behind : slotsBehind state.index state.index < slotsBehind state.index slot := by
      have := slotsBehind_next ordered.index_lt (ordered.slot_lt slot stored found) same
      rw [slotsBehind_self]
      omega
    exact Nat.le_of_lt (ordered.older found written latest behind)

end Write

/-! ## The window of the written state -/

theorem windowStart_lt (timestamp : Nat) :
    lteConsideringOverflow timestamp (windowStart timestamp) timestamp = false := by
  unfold lteConsideringOverflow windowStart wrappingSub windowSeconds
  simp only [Nat.lt_irrefl, decide_false]
  split
  · rename_i same
    have notLater := of_decide_eq_false same.symm
    simp only [decide_eq_false_iff_not]
    omega
  · rfl

theorem le_of_lteConsideringOverflow {currentTime : Nat} (past : a ≤ currentTime)
    (lte : lteConsideringOverflow a b currentTime = true) : a ≤ b := by
  unfold lteConsideringOverflow at lte
  simp only [Nat.not_lt.mpr past, decide_false] at lte
  split at lte
  · exact of_decide_eq_true lte
  · cases lte

section Window

/-- The point a write replaces is older than the oldest one after the write. -/
theorem replaced_older (ordered : RingOrdered state) (wrote : state.written point = .ok next)
    {oldest replaced : Timepoint} (oldestIs : next.timepoints[next.oldestIndex]? = some oldest)
    (found : state.timepoints[nextSlot state.index]? = some replaced)
    (written : replaced.initialized = true) :
    oldest.initialized = true ∧ replaced.blockTimestamp < oldest.blockTimestamp := by
  obtain ⟨oldestIndex, rfl, oldestIndexIs⟩ := written_spec wrote
  obtain ⟨following, storedNext, writtenNext, rises⟩ :=
    ordered.rising _ replaced (nextSlot_ne _) found written
  have initialized : initializedAt state.timepoints (nextSlot (nextSlot state.index)) = true := by
    unfold initializedAt
    rw [storedNext]
    exact writtenNext
  rw [if_pos initialized] at oldestIndexIs
  subst oldestIndexIs
  simp only at oldestIs
  rw [getElem?_insert_of_ne _ _ (nextSlot_ne _), storedNext] at oldestIs
  cases oldestIs
  exact ⟨writtenNext, rises⟩

variable {stored : Timepoint}

theorem mem_points_written (wrote : state.written point = .ok next) (mem : stored ∈ next.points) :
    stored = point ∨ stored.initialized = true ∧ ∃ slot : Nat, slot ≠ nextSlot state.index ∧
      state.timepoints[slot]? = some stored := by
  obtain ⟨_, rfl, _⟩ := written_spec wrote
  obtain ⟨written, slot, found⟩ := mem_points_iff.mp mem
  simp only at found
  by_cases same : slot = nextSlot state.index
  · rw [same, getElem?_insert_self] at found
    cases found
    exact Or.inl rfl
  · rw [getElem?_insert_of_ne _ _ same] at found
    exact Or.inr ⟨written, slot, same, found⟩

theorem mem_points_of_ne (wrote : state.written point = .ok next)
    (other : slot ≠ nextSlot state.index) (found : state.timepoints[slot]? = some stored)
    (written : stored.initialized = true) : stored ∈ next.points := by
  obtain ⟨_, rfl, _⟩ := written_spec wrote
  refine mem_points_iff.mpr ⟨written, slot, ?_⟩
  simp only
  rw [getElem?_insert_of_ne _ _ other]
  exact found

/-- A bracket stays one when a newer point is written over one that is older than its target. -/
theorem Bracketed.write (ordered : RingOrdered state) (heldIn : HeldIn held state.timepoints)
    {target : Nat} (bracketed : Bracketed held state target)
    (wrote : state.written point = .ok next) (pointWritten : point.initialized = true)
    (replacedOlder : ∀ replaced, state.timepoints[nextSlot state.index]? = some replaced →
      replaced.initialized = true → replaced.blockTimestamp < target) :
    Bracketed (held.insert (nextSlot state.index) point) next target := by
  have heldPoint : point ∈ (next.holding (held.insert (nextSlot state.index) point)).points :=
    mem_points_iff.mpr ⟨pointWritten, nextSlot state.index, getElem?_insert_self _ _ _⟩
  -- a point that stays where it was is held after the write if it was held before
  have stays : ∀ (slot : Nat) (stored : Timepoint), slot ≠ nextSlot state.index →
      state.timepoints[slot]? = some stored → stored ∈ (state.holding held).points →
      stored ∈ (next.holding (held.insert (nextSlot state.index) point)).points := by
    intro slot stored other found mem
    obtain ⟨written, heldSlot, heldFound⟩ := mem_points_iff.mp mem
    have same := ordered.slot_unique found (heldIn _ _ heldFound) written
    subst same
    refine mem_points_iff.mpr ⟨written, slot, ?_⟩
    rw [holding, getElem?_insert_of_ne _ _ other]
    exact heldFound
  constructor
  · intro stored mem past newest
    rcases mem_points_written wrote mem with rfl | ⟨written, slot, other, found⟩
    · exact heldPoint
    · refine stays slot stored other found (bracketed.before stored
        (mem_points_iff.mpr ⟨written, slot, found⟩) past fun rival rivalMem rivalPast => ?_)
      obtain ⟨rivalWritten, rivalSlot, rivalFound⟩ := mem_points_iff.mp rivalMem
      by_cases replaced : rivalSlot = nextSlot state.index
      · subst replaced
        exact Nat.le_of_lt (ordered.older rivalFound rivalWritten found
          (slotsBehind_lt_nextSlot ordered.index_lt (ordered.slot_lt _ _ found) other))
      · exact newest rival (mem_points_of_ne wrote replaced rivalFound rivalWritten) rivalPast
  · intro stored mem later oldest
    rcases mem_points_written wrote mem with rfl | ⟨written, slot, other, found⟩
    · exact heldPoint
    · refine stays slot stored other found (bracketed.after stored
        (mem_points_iff.mpr ⟨written, slot, found⟩) later fun rival rivalMem rivalLater => ?_)
      obtain ⟨rivalWritten, rivalSlot, rivalFound⟩ := mem_points_iff.mp rivalMem
      by_cases replaced : rivalSlot = nextSlot state.index
      · subst replaced
        exact absurd (replacedOlder rival rivalFound rivalWritten) (Nat.not_lt.mpr rivalLater)
      · exact oldest rival (mem_points_of_ne wrote replaced rivalFound rivalWritten) rivalLater

variable {timestamp : Nat}

/-- The latest point is the one at its own time. -/
theorem singleTimepoint_now (latest : state.timepoints[state.index]? = some point)
    (stamp : point.blockTimestamp = timestamp) (fits : timestamp < 2 ^ 32) :
    state.singleTimepoint timestamp 0 = .ok point := by
  have now : point.blockTimestamp = wrappingSub 32 timestamp 0 := by
    unfold wrappingSub
    omega
  unfold singleTimepoint
  rw [latest]
  refine bind_eq_ok.mpr ⟨point, rfl, ?_⟩
  rw [if_pos (Or.inl rfl), if_pos now]
  rfl

/-- The window that ends at the latest point starts before it. -/
theorem singleTimepoint_window (latest : state.timepoints[state.index]? = some point)
    (stamp : point.blockTimestamp = timestamp) :
    state.singleTimepoint timestamp windowSeconds =
      bracketedTimepoint state.points (windowStart timestamp) := by
  have early : ¬(windowSeconds = 0 ∨
      lteConsideringOverflow point.blockTimestamp (windowStart timestamp) timestamp = true) := by
    rw [stamp, windowStart_lt timestamp]
    simp [windowSeconds]
  unfold singleTimepoint
  rw [latest]
  exact if_neg early

section

variable (heldIn : HeldIn held state.timepoints) (ordered : RingOrdered state)
include heldIn ordered

/-- The averages over a written point, from the held points and from all of them. -/
theorem averages_le {last : Timepoint}
    (latest : state.timepoints[state.index]? = some last) (fits : timestamp < 2 ^ 32)
    (projected : state.pointAt last timestamp = .ok point) (covered : Covered held state timestamp)
    (wrote : state.written point = .ok next) :
    OkLe ((next.holding (held.insert (nextSlot state.index) point)).averages timestamp)
      (next.averages timestamp) := by
  obtain ⟨pointWritten, stamp, newer⟩ := pointAt_spec projected
  rw [← stamp] at newer
  have orderedNext := ordered.write latest pointWritten newer wrote
  have latestHeld : (next.holding (held.insert (nextSlot state.index) point)).timepoints[next.index]? =
      some point := by
    obtain ⟨_, rfl, _⟩ := written_spec wrote
    exact getElem?_insert_self _ _ _
  have heldInNext : HeldIn (held.insert (nextSlot state.index) point) next.timepoints := by
    obtain ⟨_, rfl, _⟩ := written_spec wrote
    exact heldIn.insert _ _
  have latestNext := heldInNext _ _ latestHeld
  unfold averages
  rw [singleTimepoint_now latestHeld stamp fits, singleTimepoint_now latestNext stamp fits,
    singleTimepoint_window latestHeld stamp, singleTimepoint_window latestNext stamp]
  refine bind (lookup (heldInNext _)) fun oldest found => ?_
  have oldestIs : next.timepoints[next.oldestIndex]? = some oldest :=
    heldInNext _ _ (orError_eq_ok.mp found)
  refine bind (refl _) fun _ _ => ?_
  refine ite (fun inWindow => ?_) fun _ => refl _
  -- only a window that the history reaches into looks at the points, and then the write replaced
  -- a point from before the window
  have bracketed : Bracketed (held.insert (nextSlot state.index) point) next
      (windowStart timestamp) := by
    refine covered.bracketed.write ordered heldIn wrote pointWritten fun replaced there written => ?_
    obtain ⟨oldestWritten, older⟩ := replaced_older ordered wrote oldestIs there written
    have past : oldest.blockTimestamp ≤ timestamp := by
      rw [← stamp]
      exact orderedNext.le_latest latestNext oldestIs oldestWritten
    have inside := le_of_lteConsideringOverflow past inWindow
    omega
  rw [bracketedTimepoint_eq heldInNext orderedNext bracketed]
  exact refl _

/-- From held points that cover its window, a fee is the fee of the complete ring. -/
theorem feesAt_of_covered (fits : timestamp < 2 ^ 32)
    (covered : Covered held state timestamp) :
    OkLe ((state.holding held).feesAt timestamp) (state.feesAt timestamp) := by
  unfold feesAt
  refine bind (validate_le heldIn) fun _ _ => ?_
  refine bind (refl _) fun _ _ => ?_
  refine bind (latest_le heldIn) fun _ _ => ?_
  refine ite (fun _ => refl _) fun _ => ?_
  refine bind (refl _) fun _ _ => ?_
  refine bind ?_ fun _ _ => refl _
  unfold projectedAveragesAt
  refine bind (validate_le heldIn) fun _ _ => ?_
  refine bind (latest_le heldIn) fun last lastIs => ?_
  refine bind (refl _) fun _ _ => ?_
  refine bind (pointAt_le heldIn ordered covered.bracketed last) fun point projected => ?_
  intro averages ok
  obtain ⟨sparse, wroteSparse, averaged⟩ := bind_eq_ok.mp ok
  obtain ⟨next, wrote, rfl⟩ := written_holding heldIn covered.successor wroteSparse
  have latest := heldIn _ _ (orError_eq_ok.mp lastIs)
  have complete := pointAt_le heldIn ordered covered.bracketed last _ projected
  exact bind_eq_ok.mpr ⟨next, wrote,
    averages_le heldIn ordered latest fits complete covered wrote averages averaged⟩

/-- The same for every second of an envelope. -/
theorem envelope_of_covered {horizon : Nat}
    (covered : ∀ timestamp, state.headTimestamp ≤ timestamp →
      timestamp ≤ state.headTimestamp + horizon → Covered held state timestamp) :
    OkLe ((state.holding held).envelope horizon) (state.envelope horizon) := by
  unfold envelope
  refine bind (validate_le heldIn) fun _ _ => ?_
  refine bind (refl _) fun lastTimestamp ends => ?_
  have fits : state.headTimestamp + horizon < 2 ^ 32 := by
    obtain ⟨bound, _⟩ := checkedAdd_eq_some.mp (orError_eq_ok.mp ends)
    exact bound
  have refines : ∀ timestamp, state.headTimestamp ≤ timestamp →
      timestamp ≤ state.headTimestamp + horizon →
      OkLe ((state.holding held).feesAt timestamp) (state.feesAt timestamp) :=
    fun timestamp low high =>
      feesAt_of_covered heldIn ordered (by omega) (covered timestamp low high)
  refine bind (refines _ (Nat.le_refl _) (Nat.le_add_right _ _)) fun current _ => ?_
  refine bind (foldlM (fun maximum timestamp mem => ?_) current) fun _ _ => refl _
  obtain ⟨second, inHorizon, rfl⟩ := List.mem_map.mp mem
  have bound := List.mem_range.mp inHorizon
  unfold raise
  refine bind (refines _ ?_ ?_) fun _ _ => refl _
  · simp only [holding]
    omega
  · simp only [holding]
    omega

end

end Window

end PolyBot.Dex
