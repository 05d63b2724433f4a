import PolyBot.Dex.SparseHistory

/-!
# Runs after hydration

The fee state follows the pool's events from the points it hydrated.  Beside it runs the state that
holds the complete ring.

* `FeeStep.agrees`: an event whose window is covered leaves the two states in agreement.
* `hydrated_run_fees`: after any run of covered events every covered fee and envelope is the one of
  the complete ring.
* `gap_changes_fee`: with a point of the ring missing next to the window start, the fee is another
  one.
-/

namespace PolyBot.Dex

open FeeProjectionState Std

/-- The timepoints of a pool on chain: written up to the latest slot, or in every slot once the ring
has wrapped, each made from the one before it. -/
structure OnChainRing where
  slot : Nat → Timepoint
  index : Nat
  index_lt : index < ringSize
  filled : (∀ s < ringSize, (slot s).initialized = true) ∨
    ∀ s < ringSize, (slot s).initialized = true ↔ s ≤ index
  built : ∀ s < ringSize, s ≠ index → (slot s).initialized = true →
    ∃ tick previousTick liquidity averageTick volume,
      createNewTimepoint (slot s) (slot (nextSlot s)).blockTimestamp tick previousTick liquidity
        averageTick volume = .ok (slot (nextSlot s))
  stamp_fits : ∀ s < ringSize, (slot s).blockTimestamp < 2 ^ 32

namespace OnChainRing

/-- Every slot of the ring; irreducible, as nothing may evaluate all of them. -/
@[irreducible] def complete (ring : OnChainRing) : TreeMap Nat Timepoint :=
  readTimepoints ring.slot (List.range ringSize) ∅

/-- A fee state at the ring's latest slot that holds `points`. -/
def stateWith (ring : OnChainRing) (head : FeeProjectionState) (oldestIndex : Nat)
    (points : TreeMap Nat Timepoint) : FeeProjectionState :=
  { head with index := ring.index, oldestIndex := oldestIndex, timepoints := points }

end OnChainRing

/-- An event applied to the fee state; timestamps are `u32`. -/
inductive FeeStep
  | feeTimepoint (timestamp : Nat) (fits : timestamp < 2 ^ 32) (emitted : DirectionalFees)
  | swap (timestamp : Nat) (amount0 amount1 tick : Int) (liquidity : Nat)
  | liquidityHead (timestamp : Nat) (tick : Int) (liquidity : Nat)
  | advanceHead (timestamp : Nat)

namespace FeeStep

def apply (state : FeeProjectionState) : FeeStep → Except String FeeProjectionState
  | feeTimepoint timestamp _ emitted => state.applyFeeTimepoint timestamp emitted
  | swap timestamp amount0 amount1 tick liquidity =>
    state.applySwap timestamp amount0 amount1 tick liquidity
  | liquidityHead timestamp tick liquidity => state.applyLiquidityHead timestamp tick liquidity
  | advanceHead timestamp => state.advanceHead timestamp

/-- The window an event looks at is covered; only a Fee looks at one. -/
def IsCovered (sparse full : FeeProjectionState) : FeeStep → Prop
  | feeTimepoint timestamp _ _ => Covered sparse.timepoints full timestamp
  | _ => True

def run (state : FeeProjectionState) (steps : List FeeStep) : Except String FeeProjectionState :=
  steps.foldlM apply state

end FeeStep

open FeeStep

/-- Every event of the run is covered when it is applied. -/
def CoveredRun (sparse full : FeeProjectionState) : List FeeStep → Prop
  | [] => True
  | step :: steps => step.IsCovered sparse full ∧
    ∀ sparse' full', step.apply sparse = .ok sparse' → step.apply full = .ok full' →
      CoveredRun sparse' full' steps

/-- The two states differ only in what they hold, and the smaller holds points of the larger. -/
structure Agree (sparse full : FeeProjectionState) : Prop where
  same : sparse = full.holding sparse.timepoints
  heldIn : HeldIn sparse.timepoints full.timepoints
  ordered : RingOrdered full

/-! ## One event -/

section Step

variable {full : FeeProjectionState} {held : TreeMap Nat Timepoint}
  {sparse sparse' : FeeProjectionState}

theorem applyFeeTimepoint_agree (heldIn : HeldIn held full.timepoints) (ordered : RingOrdered full)
    {timestamp : Nat} (fits : timestamp < 2 ^ 32) (covered : Covered held full timestamp)
    {emitted : DirectionalFees}
    (applied : (full.holding held).applyFeeTimepoint timestamp emitted = .ok sparse) :
    ∃ full', full.applyFeeTimepoint timestamp emitted = .ok full' ∧ Agree sparse full' := by
  simp only [applyFeeTimepoint, bind_eq_ok, require_eq_ok, pure_eq_ok] at applied
  obtain ⟨_, valid, last, lastIs, _, advances, _, notBefore, expected, fees, _, emittedIs,
    point, projected, written, wroteSparse, rfl⟩ := applied
  have latest := heldIn _ _ (orError_eq_ok.mp lastIs)
  have projectedFull := pointAt_le heldIn ordered covered.bracketed last _ projected
  obtain ⟨next, wrote, rfl⟩ := written_holding heldIn covered.successor wroteSparse
  refine ⟨{ next with
    latestTimepointTimestamp := timestamp
    currentFees := emitted
    volumePerLiquidityInBlock := 0
    headTimestamp := timestamp }, ?_, ?_⟩
  · simp only [applyFeeTimepoint, bind_eq_ok, require_eq_ok, pure_eq_ok]
    exact ⟨(), validate_le heldIn _ valid, last, latest_le heldIn _ lastIs, (), advances, (),
      notBefore, expected, feesAt_of_covered heldIn ordered fits covered _ fees, (), emittedIs,
      point, projectedFull, next, wrote, rfl⟩
  · obtain ⟨pointWritten, stamp, newer⟩ := pointAt_spec projectedFull
    have orderedNext := ordered.write latest pointWritten (by omega) wrote
    obtain ⟨_, rfl, _⟩ := written_spec wrote
    exact ⟨rfl, heldIn.insert _ _, orderedNext.index_lt, orderedNext.slot_lt, orderedNext.rising⟩

/-- An event that keeps the slot and the points, and gives the same state from either, keeps the
agreement. -/
theorem Agree.of_update {full' : FeeProjectionState} (heldIn : HeldIn held full.timepoints)
    (ordered : RingOrdered full) (same : sparse' = full'.holding held)
    (index : full'.index = full.index) (timepoints : full'.timepoints = full.timepoints) :
    Agree sparse' full' := by
  subst same
  refine ⟨rfl, ?_, ?_, ?_, ?_⟩
  · rw [timepoints]
    exact heldIn
  · rw [index]
    exact ordered.index_lt
  · rw [timepoints]
    exact ordered.slot_lt
  · rw [timepoints, index]
    exact ordered.rising

/-- An event that is covered is accepted by the complete state too, and the states still agree. -/
theorem FeeStep.agrees (agree : Agree sparse full) {step : FeeStep}
    (covered : step.IsCovered sparse full) (applied : step.apply sparse = .ok sparse') :
    ∃ full', step.apply full = .ok full' ∧ Agree sparse' full' := by
  obtain ⟨same, heldIn, ordered⟩ := agree
  generalize sparse.timepoints = held at *
  subst same
  cases step with
  | feeTimepoint timestamp fits emitted =>
    exact applyFeeTimepoint_agree heldIn ordered fits covered applied
  | swap timestamp amount0 amount1 tick liquidity =>
    simp only [apply, applySwap, applySwapAfterTimepointValidation, bind_eq_ok,
      require_eq_ok, pure_eq_ok] at applied ⊢
    obtain ⟨_, notBefore, _, nonzero, rfl⟩ := applied
    exact ⟨_, ⟨(), notBefore, (), nonzero, rfl⟩, Agree.of_update heldIn ordered rfl rfl rfl⟩
  | liquidityHead timestamp tick liquidity =>
    simp only [apply, applyLiquidityHead, bind_eq_ok, require_eq_ok, pure_eq_ok]
      at applied ⊢
    obtain ⟨_, valid, last, latest, _, notBefore, _, nonzero, rfl⟩ := applied
    exact ⟨_, ⟨(), validate_le heldIn _ valid, last, latest_le heldIn _ latest, (), notBefore, (),
      nonzero, rfl⟩, Agree.of_update heldIn ordered rfl rfl rfl⟩
  | advanceHead timestamp =>
    simp only [apply, FeeProjectionState.advanceHead, bind_eq_ok, require_eq_ok, pure_eq_ok]
      at applied ⊢
    obtain ⟨_, valid, _, notBefore, rfl⟩ := applied
    exact ⟨_, ⟨(), validate_le heldIn _ valid, (), notBefore, rfl⟩,
      Agree.of_update heldIn ordered rfl rfl rfl⟩

end Step

/-! ## The complete ring -/

theorem getElem?_readTimepoints (ring : Nat → Timepoint) (slots : List Nat)
    (points : TreeMap Nat Timepoint) (slot : Nat) :
    (readTimepoints ring slots points)[slot]? =
      if slot ∈ slots then some (ring slot) else points[slot]? := by
  induction slots generalizing points with
  | nil => simp [readTimepoints]
  | cons first rest ih =>
    change (readTimepoints ring rest (points.insert first (ring first)))[slot]? = _
    rw [ih]
    by_cases inRest : slot ∈ rest
    · rw [if_pos inRest, if_pos (List.mem_cons_of_mem _ inRest)]
    · by_cases isFirst : slot = first
      · subst isFirst
        rw [if_neg inRest, getElem?_insert_self, if_pos (List.mem_cons_self ..)]
      · have notIn : slot ∉ first :: rest := by
          rw [List.mem_cons]
          exact fun mem => mem.elim isFirst inRest
        rw [if_neg inRest, getElem?_insert_of_ne _ _ isFirst, if_neg notIn]

namespace OnChainRing

variable (ring : OnChainRing)

theorem getElem?_complete (s : Nat) :
    ring.complete[s]? = if s < ringSize then some (ring.slot s) else none := by
  unfold complete
  rw [getElem?_readTimepoints]
  simp only [List.mem_range]
  split
  · rfl
  · simp

theorem of_getElem?_complete {s : Nat} {point : Timepoint} (found : ring.complete[s]? = some point) :
    s < ringSize ∧ point = ring.slot s := by
  rw [getElem?_complete] at found
  split at found
  · rename_i inRing
    exact ⟨inRing, (Option.some.inj found).symm⟩
  · cases found

theorem heldIn_complete {points : TreeMap Nat Timepoint} (read : ReadFrom ring.slot points) :
    HeldIn points ring.complete := by
  intro s point found
  obtain ⟨inRing, rfl⟩ := read s point found
  rw [getElem?_complete, if_pos inRing]

theorem ringOrdered (head : FeeProjectionState) (oldestIndex : Nat) :
    RingOrdered (ring.stateWith head oldestIndex ring.complete) := by
  refine ⟨ring.index_lt, ?_, ?_⟩
  · intro s point found
    exact (ring.of_getElem?_complete found).1
  · intro s point notLatest found written
    obtain ⟨inRing, rfl⟩ := ring.of_getElem?_complete found
    obtain ⟨tick, previousTick, liquidity, averageTick, volume, created⟩ :=
      ring.built s inRing notLatest written
    obtain ⟨nextWritten, _, rises⟩ := createNewTimepoint_spec created
    refine ⟨ring.slot (nextSlot s), ?_, nextWritten, rises⟩
    simp only [stateWith]
    rw [getElem?_complete, if_pos (nextSlot_lt s)]

end OnChainRing

/-! ## Whole runs -/

variable {full : FeeProjectionState}

theorem FeeStep.run_agrees {steps : List FeeStep} {sparse sparse' : FeeProjectionState}
    (agree : Agree sparse full) (covered : CoveredRun sparse full steps)
    (ran : run sparse steps = .ok sparse') :
    ∃ full', run full steps = .ok full' ∧ Agree sparse' full' := by
  induction steps generalizing sparse full with
  | nil =>
    cases ran
    exact ⟨full, rfl, agree⟩
  | cons step steps ih =>
    obtain ⟨first, rest⟩ := covered
    obtain ⟨middle, applied, ranRest⟩ := bind_eq_ok.mp ran
    obtain ⟨fullMiddle, appliedFull, agreeMiddle⟩ := step.agrees agree first applied
    obtain ⟨full', ranFull, agree'⟩ :=
      ih agreeMiddle (rest middle fullMiddle applied appliedFull) ranRest
    exact ⟨full', bind_eq_ok.mpr ⟨fullMiddle, appliedFull, ranFull⟩, agree'⟩

/-- The fees after hydration and a run.  Where every Fee event was covered when it came, the state
with the complete ring accepts the same run, and at every time that is covered then, the fee
projected from the hydrated points is the fee of the complete ring; an envelope likewise. -/
theorem hydrated_run_fees (ring : OnChainRing) (head : FeeProjectionState) {horizon oldestIndex : Nat}
    {points : TreeMap Nat Timepoint}
    (hydrated : hydrateTimepoints ring.slot ring.index head.headTimestamp horizon =
      .ok (oldestIndex, points))
    {steps : List FeeStep} {sparse : FeeProjectionState}
    (covered : CoveredRun (ring.stateWith head oldestIndex points)
      (ring.stateWith head oldestIndex ring.complete) steps)
    (ran : run (ring.stateWith head oldestIndex points) steps = .ok sparse) :
    ∃ full, run (ring.stateWith head oldestIndex ring.complete) steps = .ok full ∧
      (∀ timestamp, timestamp < 2 ^ 32 → Covered sparse.timepoints full timestamp →
        sparse.feesAt timestamp = full.feesAt timestamp ∨
          ∃ error, sparse.feesAt timestamp = .error error) ∧
      ∀ seconds, (∀ timestamp, full.headTimestamp ≤ timestamp →
          timestamp ≤ full.headTimestamp + seconds → Covered sparse.timepoints full timestamp) →
        sparse.envelope seconds = full.envelope seconds ∨
          ∃ error, sparse.envelope seconds = .error error := by
  have read := hydrateTimepoints_reads ring.index_lt hydrated
  have start : Agree (ring.stateWith head oldestIndex points)
      (ring.stateWith head oldestIndex ring.complete) :=
    ⟨rfl, ring.heldIn_complete read, ring.ringOrdered head oldestIndex⟩
  obtain ⟨full, ranFull, same, heldIn, ordered⟩ := run_agrees start covered ran
  refine ⟨full, ranFull, fun timestamp fits window => ?_, fun seconds windows => ?_⟩
  · rw [same]
    exact (feesAt_of_covered heldIn ordered fits window).eq_or_error
  · rw [same]
    exact (envelope_of_covered heldIn ordered windows).eq_or_error

/-! ## A gap next to the window -/

/-- Held points that leave out no written one cover every window. -/
theorem covered_of_all {held : TreeMap Nat Timepoint}
    (all : ∀ (s : Nat) (point : Timepoint), full.timepoints[s]? = some point →
      point.initialized = true → held[s]? = some point) (timestamp : Nat) :
    Covered held full timestamp := by
  have mem : ∀ point ∈ full.points, point ∈ (full.holding held).points := by
    intro point mem
    obtain ⟨written, s, found⟩ := mem_points_iff.mp mem
    exact mem_points_iff.mpr ⟨written, s, all s point found written⟩
  refine ⟨⟨fun point isPoint _ _ => mem point isPoint, fun point isPoint _ _ => mem point isPoint⟩,
    fun written => ?_⟩
  unfold initializedAt at written ⊢
  cases found : full.timepoints[nextSlot (nextSlot full.index)]? with
  | none => simp [found] at written
  | some point =>
    rw [found] at written
    rw [all _ point found written]
    exact written

/-- The times of nine written points; the searches at a head of 1090000 do not probe slot 6. -/
def gapStamps : List Nat :=
  [996000, 997000, 998000, 999000, 1000000, 1010000, 1020000, 1060000, 1090000]

/-- All the volume comes between slots 5 and 6. -/
def gapVolume (s : Nat) : Nat :=
  if s < 6 then 0 else 1000 <<< 57

def gapSlot (s : Nat) : Timepoint :=
  match gapStamps[s]? with
  | some stamp => ⟨true, stamp, 0, (stamp - 996000) <<< 128, 0, 0, gapVolume s⟩
  | none => ⟨false, 0, 0, 0, 0, 0, 0⟩

theorem gapSlot_initialized (s : Nat) : (gapSlot s).initialized = true ↔ s ≤ 8 := by
  unfold gapSlot
  cases found : gapStamps[s]? with
  | none =>
    have := List.getElem?_eq_none_iff.mp found
    simp [gapStamps] at this ⊢
    omega
  | some stamp =>
    obtain ⟨bound, _⟩ := List.getElem?_eq_some_iff.mp found
    simp [gapStamps] at bound ⊢
    omega

theorem gapSlot_built : ∀ s < 8, createNewTimepoint (gapSlot s) (gapSlot (nextSlot s)).blockTimestamp
    0 0 1 0 (gapVolume (nextSlot s) - gapVolume s) = .ok (gapSlot (nextSlot s)) := by
  decide +kernel

def gapRing : OnChainRing where
  slot := gapSlot
  index := 8
  index_lt := by decide
  filled := Or.inr fun s _ => gapSlot_initialized s
  built := by
    intro s _ notLatest written
    have bound := (gapSlot_initialized s).mp written
    exact ⟨0, 0, 1, 0, _, gapSlot_built s (by omega)⟩
  stamp_fits := by
    intro s _
    unfold gapSlot
    cases found : gapStamps[s]? with
    | none => simp
    | some stamp =>
      have mem := List.mem_of_getElem? found
      have bound : ∀ stamp ∈ gapStamps, stamp < 2 ^ 32 := by decide
      exact bound stamp mem

/-- A fee that follows the volume alone: 100 without any, and 600 at a high one. -/
def gapConfig : AdaptiveFeeConfiguration :=
  ⟨1000, 0, 0, 0, 1, 1, 10, 1, 100⟩

def gapHead : FeeProjectionState :=
  ⟨1090000, 1090000, 0, 1, 8, 0, ⟨100, 100⟩, 0, gapConfig, gapConfig, ∅⟩

/-- What hydration with a horizon of 60 seconds holds of the ring. -/
def gapPoints : TreeMap Nat Timepoint :=
  match hydrateTimepoints gapSlot 8 1090000 60 with
  | .ok (_, points) => points
  | .error _ => ∅

/-- Every written slot of the ring. -/
def gapWritten : TreeMap Nat Timepoint :=
  readTimepoints gapSlot (List.range 11) ∅

theorem gapPoints_hydrated : hydrateTimepoints gapSlot 8 1090000 60 = .ok (0, gapPoints) := by
  have oldest : (hydrateTimepoints gapSlot 8 1090000 60).map Prod.fst = .ok 0 := by decide +kernel
  unfold gapPoints
  cases result : hydrateTimepoints gapSlot 8 1090000 60 with
  | error e =>
    rw [result] at oldest
    cases oldest
  | ok hydrated =>
    rw [result] at oldest
    obtain ⟨oldestIndex, points⟩ := hydrated
    cases oldest
    rfl

theorem gapWritten_heldIn : HeldIn gapWritten gapRing.complete := by
  apply gapRing.heldIn_complete
  apply ReadFrom.readTimepoints
  · intro s mem
    have := List.mem_range.mp mem
    unfold ringSize
    omega
  · intro s point found
    simp at found

theorem gapWritten_all (s : Nat) (point : Timepoint) (found : gapRing.complete[s]? = some point)
    (written : point.initialized = true) : gapWritten[s]? = some point := by
  obtain ⟨_, rfl⟩ := gapRing.of_getElem?_complete found
  have bound := (gapSlot_initialized s).mp written
  unfold gapWritten
  rw [getElem?_readTimepoints, if_pos (List.mem_range.mpr (by omega))]
  rfl

theorem mem_gap_points {point : Timepoint}
    (mem : point ∈ (gapRing.stateWith gapHead 0 gapRing.complete).points) :
    ∃ s ≤ 8, point = gapSlot s := by
  obtain ⟨written, s, found⟩ := mem_points_iff.mp mem
  obtain ⟨_, rfl⟩ := gapRing.of_getElem?_complete found
  exact ⟨s, (gapSlot_initialized s).mp written, rfl⟩

theorem gapSlot_mem_points {s : Nat} (written : s ≤ 8) :
    gapSlot s ∈ (gapRing.stateWith gapHead 0 gapRing.complete).points := by
  refine mem_points_iff.mpr ⟨(gapSlot_initialized s).mpr written, s, ?_⟩
  simp only [OnChainRing.stateWith]
  rw [gapRing.getElem?_complete, if_pos (by unfold ringSize; omega)]
  rfl

/-- The first window after hydration starts between slots 4 and 5, which the search read. -/
theorem gap_covered : Covered gapPoints (gapRing.stateWith gapHead 0 gapRing.complete) 1090100 := by
  have start : windowStart 1090100 = 1003700 := by decide
  refine ⟨⟨?_, ?_⟩, ?_⟩
  · rw [start]
    intro point mem past newest
    obtain ⟨s, written, rfl⟩ := mem_gap_points mem
    have atLeast := newest _ (gapSlot_mem_points (show 4 ≤ 8 by decide)) (by decide)
    have only : ∀ s ≤ 8, (gapSlot s).blockTimestamp ≤ 1003700 →
        (gapSlot 4).blockTimestamp ≤ (gapSlot s).blockTimestamp → s = 4 := by decide
    obtain rfl := only s written past atLeast
    exact mem_points_iff.mpr ⟨rfl, 4, by decide +kernel⟩
  · rw [start]
    intro point mem later oldest
    obtain ⟨s, written, rfl⟩ := mem_gap_points mem
    have atMost := oldest _ (gapSlot_mem_points (show 5 ≤ 8 by decide)) (by decide)
    have only : ∀ s ≤ 8, 1003700 ≤ (gapSlot s).blockTimestamp →
        (gapSlot s).blockTimestamp ≤ (gapSlot 5).blockTimestamp → s = 5 := by decide
    obtain rfl := only s written later atMost
    exact mem_points_iff.mpr ⟨rfl, 5, by decide +kernel⟩
  · intro written
    have unwritten : initializedAt gapRing.complete 10 = false := by
      unfold initializedAt
      rw [gapRing.getElem?_complete, if_pos (by decide)]
      rfl
    exact absurd written (unwritten ▸ Bool.false_ne_true)

/-- A Fee a hundred seconds after hydration is accepted from the held points and from the complete
ring, and the fees agree after it. -/
theorem gap_fee_before_gap : ∃ points sparse full,
    hydrateTimepoints gapRing.slot gapRing.index gapHead.headTimestamp 60 = .ok (0, points) ∧
    run (gapRing.stateWith gapHead 0 points)
      [.feeTimepoint 1090100 (by decide) ⟨600, 600⟩] = .ok sparse ∧
    run (gapRing.stateWith gapHead 0 gapRing.complete)
      [.feeTimepoint 1090100 (by decide) ⟨600, 600⟩] = .ok full ∧
    ∀ timestamp, timestamp < 2 ^ 32 → Covered sparse.timepoints full timestamp →
      sparse.feesAt timestamp = full.feesAt timestamp ∨
        ∃ error, sparse.feesAt timestamp = .error error := by
  obtain ⟨sparse, ran⟩ : ∃ sparse, run (gapRing.stateWith gapHead 0 gapPoints)
      [.feeTimepoint 1090100 (by decide) ⟨600, 600⟩] = .ok sparse := exists_eq_ok (by decide +kernel)
  have covered : CoveredRun (gapRing.stateWith gapHead 0 gapPoints)
      (gapRing.stateWith gapHead 0 gapRing.complete)
      [.feeTimepoint 1090100 (by decide) ⟨600, 600⟩] := ⟨gap_covered, fun _ _ _ _ => trivial⟩
  obtain ⟨full, ranFull, fees, _⟩ :=
    hydrated_run_fees gapRing gapHead gapPoints_hydrated covered ran
  exact ⟨gapPoints, sparse, full, gapPoints_hydrated, ran, ranFull, fees⟩

/-- The state when the head is 26400 seconds later. -/
def gapLater (points : TreeMap Nat Timepoint) : FeeProjectionState :=
  { gapRing.stateWith gapHead 0 points with headTimestamp := 1116400 }

theorem gap_run {points : TreeMap Nat Timepoint}
    (valid : (gapRing.stateWith gapHead 0 points).validate = .ok ()) :
    run (gapRing.stateWith gapHead 0 points) [.advanceHead 1116400] =
      .ok (gapLater points) := by
  have applied : (gapRing.stateWith gapHead 0 points).advanceHead 1116400 =
      .ok (gapLater points) := by
    simp only [FeeProjectionState.advanceHead, bind_eq_ok, require_eq_ok, pure_eq_ok]
    exact ⟨(), valid, (), by simp [OnChainRing.stateWith, gapHead], rfl⟩
  exact bind_eq_ok.mpr ⟨_, applied, rfl⟩

/-- Once the head is 26400 seconds past hydration, the window starts between slots 6 and 7.  Slot 6
was never read, so the held points spread the volume from slot 5 to slot 7 and put a part of it into
the window, where the ring has all of it before the window. -/
theorem gap_changes_fee : ∃ points sparse full,
    hydrateTimepoints gapRing.slot gapRing.index gapHead.headTimestamp 60 = .ok (0, points) ∧
    run (gapRing.stateWith gapHead 0 points) [.advanceHead 1116400] = .ok sparse ∧
    run (gapRing.stateWith gapHead 0 gapRing.complete) [.advanceHead 1116400] = .ok full ∧
    sparse.feesAt 1116400 = .ok ⟨600, 600⟩ ∧ full.feesAt 1116400 = .ok ⟨100, 100⟩ := by
  have validSparse : (gapRing.stateWith gapHead 0 gapPoints).validate = .ok () := by decide +kernel
  have validWritten : (gapRing.stateWith gapHead 0 gapWritten).validate = .ok () := by decide +kernel
  have validFull : (gapRing.stateWith gapHead 0 gapRing.complete).validate = .ok () :=
    validate_le gapWritten_heldIn () validWritten
  refine ⟨gapPoints, gapLater gapPoints, gapLater gapRing.complete, gapPoints_hydrated,
    gap_run validSparse, gap_run validFull, by decide +kernel, ?_⟩
  -- the nine written points cover the window, and with them the fee can be evaluated
  have ordered : RingOrdered (gapLater gapRing.complete) :=
    let ring := gapRing.ringOrdered gapHead 0
    ⟨ring.index_lt, ring.slot_lt, ring.rising⟩
  have covered : Covered gapWritten (gapLater gapRing.complete) 1116400 :=
    covered_of_all gapWritten_all 1116400
  exact feesAt_of_covered gapWritten_heldIn ordered (by decide) covered _
    (show (gapLater gapWritten).feesAt 1116400 = .ok ⟨100, 100⟩ by decide +kernel)

end PolyBot.Dex
