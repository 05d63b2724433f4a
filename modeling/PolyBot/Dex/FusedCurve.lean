import PolyBot.Dex.OutputCurve

/-!
# The fused curve

A curve of exact inputs that is bounded by an output, built in one pass of exact-output steps.  A step
that ends at a boundary is kept as it is, one that stops inside its leg is computed again from its
input, and what follows the last leg that produced anything is cut off.

* `ClmmPool.Sound.fused`: the segments that are returned are those of the legs.
* `ClmmPool.fused_curve_eq_iff`: the curve is that of two passes, unless the last output is less than
  its leg yields and the price that yields it is already the boundary's.
-/

namespace PolyBot.Dex

open SwapMath

namespace ClmmPool

/-- The segments from a leg on that are not cut off: all of them where the leg is productive, and
otherwise those up to a later leg that is. -/
def keepLeg (output specifiedStep : Nat) (segment : PreparedQuoteSegment)
    (kept : Option (List PreparedQuoteSegment)) : Option (List PreparedQuoteSegment) :=
  if output ≠ 0 then some (keepSegment specifiedStep segment (kept.getD []))
  else kept.map (keepSegment specifiedStep segment)

theorem keepLeg_some (output specifiedStep : Nat) (segment : PreparedQuoteSegment)
    (kept : List PreparedQuoteSegment) :
    keepLeg output specifiedStep segment (some kept) =
      some (keepSegment specifiedStep segment kept) := by
  unfold keepLeg
  split <;> rfl

variable {output : Nat}

theorem keepLeg_productive (productive : output ≠ 0) (specifiedStep : Nat)
    (segment : PreparedQuoteSegment) :
    keepLeg output specifiedStep segment none = some (keepSegment specifiedStep segment []) := by
  rw [keepLeg, if_pos productive]
  rfl

theorem keepLeg_unproductive (unproductive : output = 0) (specifiedStep : Nat)
    (segment : PreparedQuoteSegment) : keepLeg output specifiedStep segment none = none := by
  rw [keepLeg, if_neg (not_not.mpr unproductive)]
  rfl

/-- The segments that the fused builder keeps from here on, if there is any productive leg, with the
output that remains and the two totals so far. -/
inductive FusedTail (pool : ClmmPool) (zeroForOne : Bool) :
    Nat → Nat → Nat → Walk → Option (List PreparedQuoteSegment) → Prop
  | stop {remaining total result : Nat} {walk : Walk}
      (stops : ¬ Produces zeroForOne remaining walk) :
      FusedTail pool zeroForOne remaining total result walk none
  | leg {remaining total result : Nat} {walk next : Walk}
      {kept : Option (List PreparedQuoteSegment)} (produces : Produces zeroForOne remaining walk)
      (covers : pool.legOutput zeroForOne walk ≤ remaining)
      (crosses : pool.Crosses zeroForOne walk next)
      (rest : FusedTail pool zeroForOne (remaining - pool.legOutput zeroForOne walk)
        (total + pool.legCost zeroForOne walk) (result + pool.legOutput zeroForOne walk) next kept) :
      FusedTail pool zeroForOne remaining total result walk
        (keepLeg (pool.legOutput zeroForOne walk) (pool.legCost zeroForOne walk)
          (pool.wholeLeg zeroForOne walk .exactInput total result) kept)
  | limit {remaining total result : Nat} {walk : Walk}
      (produces : Produces zeroForOne remaining walk)
      (covers : pool.legOutput zeroForOne walk ≤ remaining)
      (elsewhere : ¬ pool.EndsAtTick zeroForOne walk) :
      FusedTail pool zeroForOne remaining total result walk
        (keepLeg (pool.legOutput zeroForOne walk) (pool.legCost zeroForOne walk)
          (pool.wholeLeg zeroForOne walk .exactInput total result) none)
  | part {remaining total result : Nat} {walk : Walk} {again : SwapStep}
      (produces : Produces zeroForOne remaining walk)
      (less : remaining < pool.legOutput zeroForOne walk)
      (inside : pool.partPrice zeroForOne walk remaining ≠
        (pool.boundaryAt zeroForOne walk.tick).sqrtPriceNextX96)
      (computed : pool.inputStep zeroForOne walk (pool.partCost zeroForOne walk remaining) =
        some again) :
      FusedTail pool zeroForOne remaining total result walk
        (keepLeg remaining (again.amountIn + again.feeAmount)
          (pool.legSegment zeroForOne walk (total + (again.amountIn + again.feeAmount))
            (result + again.amountOut)) none)
  | capped {remaining total result : Nat} {walk : Walk}
      (produces : Produces zeroForOne remaining walk)
      (less : remaining < pool.legOutput zeroForOne walk)
      (meets : pool.partPrice zeroForOne walk remaining =
        (pool.boundaryAt zeroForOne walk.tick).sqrtPriceNextX96) :
      FusedTail pool zeroForOne remaining total result walk
        (keepLeg remaining (pool.partCost zeroForOne walk remaining)
          (pool.legSegment zeroForOne walk (total + pool.partCost zeroForOne walk remaining)
            (result + remaining)) none)

/-! ## The loop -/

/-- What is returned of the segments, given what is kept of those still to come. -/
def Fusing.keeping (state : Fusing) : Option (List PreparedQuoteSegment) → List PreparedQuoteSegment
  | none => state.segments.take state.lastProductiveSegmentCount
  | some kept => state.segments ++ kept

/-- The state after a step with these amounts. -/
def Fusing.after (state : Fusing) (output specifiedStep resultStep : Nat)
    (segment : PreparedQuoteSegment) (walk : Walk) : Fusing :=
  ⟨state.specifiedTotal + specifiedStep, state.resultTotal + resultStep,
    state.resultRemaining - output, pushSegment state.segments specifiedStep segment,
    if output ≠ 0 then (pushSegment state.segments specifiedStep segment).length
    else state.lastProductiveSegmentCount, walk⟩

section Fused

variable {pool : ClmmPool} {zeroForOne : Bool} {state final : Fusing}

/-- Keeping what is still to come after a step is keeping the leg before it. -/
theorem Fusing.keeping_after (short : state.lastProductiveSegmentCount ≤ state.segments.length)
    (output specifiedStep resultStep : Nat) (segment : PreparedQuoteSegment) (walk : Walk)
    (kept : Option (List PreparedQuoteSegment)) :
    (state.after output specifiedStep resultStep segment walk).keeping kept =
      state.keeping (keepLeg output specifiedStep segment kept) := by
  have pushed : ∀ tail, pushSegment state.segments specifiedStep segment ++ tail =
      state.segments ++ keepSegment specifiedStep segment tail :=
    fun tail => pushSegment_append _ _ _ _
  cases kept with
  | some kept =>
    rw [keepLeg_some]
    exact pushed kept
  | none =>
    by_cases unproductive : output = 0
    · -- the leg itself is cut off
      rw [keepLeg_unproductive unproductive]
      simp only [keeping, after, if_neg (not_not.mpr unproductive)]
      rw [pushSegment]
      split
      · rw [List.take_append_of_le_length short]
      · rfl
    · rw [keepLeg_productive unproductive]
      simp only [keeping, after, if_pos unproductive, List.take_length]
      rw [← pushed, List.append_nil]

theorem Fusing.after_short (short : state.lastProductiveSegmentCount ≤ state.segments.length)
    (output specifiedStep resultStep : Nat) (segment : PreparedQuoteSegment) (walk : Walk) :
    (state.after output specifiedStep resultStep segment walk).lastProductiveSegmentCount ≤
      (state.after output specifiedStep resultStep segment walk).segments.length := by
  simp only [after]
  split
  · exact le_rfl
  · unfold pushSegment
    split
    · rw [List.length_append]
      omega
    · exact short

theorem fusing_condition_iff :
    Fusing.condition zeroForOne state = true ↔
      Produces zeroForOne state.resultRemaining state.walk := by
  simp only [Fusing.condition, decide_eq_true_eq]
  constructor
  · rintro ⟨positive, goes, funded⟩
    exact ⟨⟨positive, goes⟩, funded⟩
  · rintro ⟨⟨positive, goes⟩, funded⟩
    exact ⟨positive, goes, funded⟩

/-- What a round of the fused builder that succeeds has done. -/
theorem Sound.fusing_body (sound : pool.Sound) {outcome : ForInStep Fusing}
    (ran : Fusing.body pool zeroForOne state = .ok outcome) :
    ∃ step specifiedStep resultStep,
      pool.outputStep zeroForOne state.walk state.resultRemaining = some step ∧
      ((step.sqrtRatioNext = (pool.boundaryAt zeroForOne state.walk.tick).sqrtPriceNextX96 ∧
        specifiedStep = step.amountIn + step.feeAmount ∧ resultStep = step.amountOut ∧
        ∃ next, pool.beyond zeroForOne state.walk = some next ∧
          outcome = .yield (state.after step.amountOut specifiedStep resultStep
            (pool.legSegment zeroForOne state.walk (state.specifiedTotal + specifiedStep)
              (state.resultTotal + resultStep)) next)) ∨
      (step.sqrtRatioNext ≠ (pool.boundaryAt zeroForOne state.walk.tick).sqrtPriceNextX96 ∧
        (∃ again, pool.inputStep zeroForOne state.walk (step.amountIn + step.feeAmount) =
          some again ∧ specifiedStep = again.amountIn + again.feeAmount ∧
          resultStep = again.amountOut) ∧
        outcome = .done (state.after step.amountOut specifiedStep resultStep
          (pool.legSegment zeroForOne state.walk (state.specifiedTotal + specifiedStep)
            (state.resultTotal + resultStep))
          { state.walk with sqrtPriceX96 := step.sqrtRatioNext }))) := by
  simp only [Fusing.body, sound.nextBoundary_eq, ok_bind, bind_eq_ok, orError_eq_ok,
    checkedAdd_eq_some, checkedSub_eq_some] at ran
  obtain ⟨step, computed, inputWithFee, ⟨-, rfl⟩, ⟨specifiedStep, resultStep⟩, amounts,
    specifiedEnd, ⟨-, rfl⟩, resultEnd, ⟨-, rfl⟩, remaining, ⟨-, rfl⟩, ran⟩ := ran
  refine ⟨step, specifiedStep, resultStep, computed, ?_⟩
  unfold fusedAmounts at amounts
  split at ran
  · rename_i reached
    rw [if_neg (not_not.mpr reached), Except.ok.injEq, Prod.mk.injEq] at amounts
    simp only [bind_eq_ok, pure_eq_ok] at ran
    obtain ⟨next, crossed, rfl⟩ := ran
    exact Or.inl ⟨reached, amounts.1.symm, amounts.2.symm, next, beyond_eq_some.mpr crossed, rfl⟩
  · rename_i inside
    rw [if_pos inside] at amounts
    simp only [bind_eq_ok, orError_eq_ok, checkedAdd_eq_some, pure_eq_ok, Prod.mk.injEq] at amounts
    obtain ⟨again, recomputed, specified, ⟨-, rfl⟩, rfl, rfl⟩ := amounts
    rw [pure_eq_ok] at ran
    exact Or.inr ⟨inside, ⟨again, recomputed, rfl, rfl⟩, ran.symm⟩

/-- The fused builder returns the segments of the tail from where it stands. -/
theorem Sound.fused (sound : pool.Sound) {rounds : Nat} (valid : state.walk.Valid zeroForOne)
    (short : state.lastProductiveSegmentCount ≤ state.segments.length)
    (ran : pool.fuseLoop zeroForOne rounds state = .ok final) :
    ∃ kept, final.keeping none = state.keeping kept ∧
      FusedTail pool zeroForOne state.resultRemaining state.specifiedTotal state.resultTotal
        state.walk kept := by
  induction rounds generalizing state with
  | zero => cases ran
  | succ rounds ih =>
    rcases whileLoop_cases ran with ⟨stop, rfl⟩ | ⟨go, body⟩ | ⟨next, go, body, rest⟩
    · refine ⟨none, rfl, .stop ?_⟩
      intro produces
      rw [fusing_condition_iff.mpr produces] at stop
      cases stop
    · have produces := fusing_condition_iff.mp go
      obtain ⟨step, specifiedStep, resultStep, computed, ⟨-, -, -, next, -, impossible⟩ |
        ⟨inside, ⟨again, recomputed, rfl, rfl⟩, same⟩⟩ := sound.fusing_body body
      · cases impossible
      cases same
      refine ⟨_, Fusing.keeping_after short _ _ _ _ _ none, ?_⟩
      by_cases covers : pool.legOutput zeroForOne state.walk ≤ state.resultRemaining
      · obtain ⟨step', computed', reached, produced, cost⟩ :=
          sound.outputStep_full valid produces.positive covers
        cases computed.symm.trans computed'
        have small : pool.legCost zeroForOne state.walk < 2 ^ 255 :=
          (sound.legCost_lt valid).trans (by norm_num)
        obtain ⟨again', recomputed', -, spent, yielded⟩ := sound.inputStep_full valid small le_rfl
        rw [cost] at recomputed
        cases recomputed.symm.trans recomputed'
        rw [produced, spent, yielded]
        exact .limit produces covers fun ends => inside (reached.trans ends)
      · have less := Nat.not_le.mp covers
        obtain ⟨step', computed', reached, produced, cost⟩ :=
          sound.outputStep_part valid produces.positive less
        cases computed.symm.trans computed'
        rw [cost] at recomputed
        rw [produced]
        exact .part produces less (reached ▸ inside) recomputed
    · have produces := fusing_condition_iff.mp go
      obtain ⟨step, specifiedStep, resultStep, computed, ⟨reached, rfl, rfl, next, crossed, same⟩ |
        ⟨-, -, impossible⟩⟩ := sound.fusing_body body
      case inr => cases impossible
      cases same
      by_cases covers : pool.legOutput zeroForOne state.walk ≤ state.resultRemaining
      · obtain ⟨step', computed', atTarget, produced, cost⟩ :=
          sound.outputStep_full valid produces.positive covers
        cases computed.symm.trans computed'
        have crosses : pool.Crosses zeroForOne state.walk next :=
          ⟨atTarget.symm.trans reached, crossed⟩
        rw [produced, cost] at rest
        obtain ⟨kept, same, path⟩ :=
          ih (crosses.valid valid) (Fusing.after_short short _ _ _ _ _) rest
        refine ⟨_, same.trans (Fusing.keeping_after short _ _ _ _ _ kept), ?_⟩
        exact .leg produces covers crosses path
      · -- nothing remains, so the next round is the last
        have less := Nat.not_le.mp covers
        obtain ⟨step', computed', atPrice, produced, cost⟩ :=
          sound.outputStep_part valid produces.positive less
        cases computed.symm.trans computed'
        rw [produced, cost] at rest
        rcases rounds with _ | rounds
        · cases rest
        rw [whileLoop_stop] at rest
        · cases rest
          exact ⟨_, Fusing.keeping_after short _ _ _ _ _ none,
            .capped produces less (atPrice ▸ reached)⟩
        · simp [Fusing.condition, Fusing.after]

end Fused

/-! ## Against two passes -/

/-- The legs of an output lead to one that yields more than what remains, at whose boundary the price
stands as soon as that is produced. -/
inductive CappedAt (pool : ClmmPool) (zeroForOne : Bool) : Nat → Walk → Prop
  | here {remaining : Nat} {walk : Walk} (produces : Produces zeroForOne remaining walk)
      (less : remaining < pool.legOutput zeroForOne walk) (ends : pool.EndsAtTick zeroForOne walk)
      (meets : pool.partPrice zeroForOne walk remaining = pool.target zeroForOne walk) :
      CappedAt pool zeroForOne remaining walk
  | leg {remaining : Nat} {walk next : Walk} (produces : Produces zeroForOne remaining walk)
      (covers : pool.legOutput zeroForOne walk ≤ remaining)
      (crosses : pool.Crosses zeroForOne walk next)
      (rest : CappedAt pool zeroForOne (remaining - pool.legOutput zeroForOne walk) next) :
      CappedAt pool zeroForOne remaining walk

section TwoPass

variable {pool : ClmmPool} {zeroForOne : Bool} {remaining total result productive : Nat}
  {walk next : Walk} {kept : Option (List PreparedQuoteSegment)} {final : OutputTotals}

theorem cappedAt_leg_iff (produces : Produces zeroForOne remaining walk)
    (covers : pool.legOutput zeroForOne walk ≤ remaining)
    (crosses : pool.Crosses zeroForOne walk next) :
    CappedAt pool zeroForOne remaining walk ↔
      CappedAt pool zeroForOne (remaining - pool.legOutput zeroForOne walk) next := by
  constructor
  · intro capped
    cases capped with
    | here _ less => exact absurd covers (Nat.not_le.mpr less)
    | leg _ _ crosses' rest =>
      cases crosses.beyond.symm.trans crosses'.beyond
      exact rest
  · exact .leg produces covers crosses

/-- Two lists of segments are the same, or differ in the result of the last one. -/
def SameUnless (capped : Prop) (fused tail : List PreparedQuoteSegment) : Prop :=
  (¬ capped → fused = tail) ∧
    (capped → ∃ front last last', fused = front ++ [last] ∧ tail = front ++ [last'] ∧
      last.resultEnd ≠ last'.resultEnd)

variable {fused tail : List PreparedQuoteSegment} {capacity : Nat}

theorem SameUnless.keep {capped : Prop} (same : SameUnless capped fused tail) (specifiedStep : Nat)
    (segment : PreparedQuoteSegment) :
    SameUnless capped (keepSegment specifiedStep segment fused)
      (keepSegment specifiedStep segment tail) := by
  refine ⟨fun free => congrArg _ (same.1 free), ?_⟩
  intro capped
  obtain ⟨front, last, last', rfl, rfl, ne⟩ := same.2 capped
  unfold keepSegment
  split
  · exact ⟨segment :: front, last, last', rfl, rfl, ne⟩
  · exact ⟨front, last, last', rfl, rfl, ne⟩

/-- What the fused builder keeps against what the capacity and the second pass make of the same
legs. -/
structure Fuses (pool : ClmmPool) (zeroForOne : Bool) (remaining total result productive : Nat)
    (walk : Walk) (capacity : Nat) (kept : Option (List PreparedQuoteSegment)) : Prop where
  nothing : kept = none → capacity = productive ∧ ¬ CappedAt pool zeroForOne remaining walk
  segments : ∀ fused, kept = some fused → total < capacity ∧
    ∀ tail, Tail pool zeroForOne .exactInput capacity total result walk tail →
      SameUnless (CappedAt pool zeroForOne remaining walk) fused tail

/-- A curve whose bound is the end of the leg has the segment of the leg only. -/
theorem Tail.whole_inv {bound : Nat}
    (path : Tail pool zeroForOne .exactInput bound total result walk tail)
    (produces : Produces zeroForOne remaining walk) (costs : pool.legCost zeroForOne walk ≠ 0)
    (exact : bound = total + pool.legCost zeroForOne walk) :
    tail = keepSegment (pool.legCost zeroForOne walk)
      (pool.wholeLeg zeroForOne walk .exactInput total result) [] := by
  have builds : Builds zeroForOne bound total walk :=
    ⟨by omega, produces.goes, produces.funded⟩
  by_cases ends : pool.EndsAtTick zeroForOne walk
  · obtain ⟨next, rest, -, rfl, behind⟩ := path.leg_inv builds exact.ge ends
    have stops : ¬ Builds zeroForOne bound (total + pool.legCost zeroForOne walk) next := by
      intro builds
      exact absurd builds.below (Nat.not_lt.mpr exact.le)
    rw [behind.stop_inv stops]
    rfl
  · exact path.limit_inv builds exact.ge ends

theorem not_cappedAt_of_limit (elsewhere : ¬ pool.EndsAtTick zeroForOne walk) :
    ¬ CappedAt pool zeroForOne remaining walk := by
  intro capped
  cases capped with
  | here _ _ ends => exact elsewhere ends
  | leg _ _ crosses => exact elsewhere crosses.ends

theorem Fuses.last (below : total < capacity)
    (same : ∀ tail, Tail pool zeroForOne .exactInput capacity total result walk tail →
      SameUnless (CappedAt pool zeroForOne remaining walk) fused tail) :
    Fuses pool zeroForOne remaining total result productive walk capacity (some fused) := by
  refine ⟨(nomatch ·), ?_⟩
  intro fused' is
  cases is
  exact ⟨below, same⟩

/-- Where the legs end, both keep the segment of the last one. -/
theorem Fuses.close (valid : walk.Valid zeroForOne) (produces : Produces zeroForOne remaining walk)
    (free : ¬ CappedAt pool zeroForOne remaining walk)
    (closed : capacity = if pool.legOutput zeroForOne walk ≠ 0 then
      total + pool.legCost zeroForOne walk else productive) :
    Fuses pool zeroForOne remaining total result productive walk capacity
      (keepLeg (pool.legOutput zeroForOne walk) (pool.legCost zeroForOne walk)
        (pool.wholeLeg zeroForOne walk .exactInput total result) none) := by
  by_cases unproductive : pool.legOutput zeroForOne walk = 0
  · rw [if_neg (not_not.mpr unproductive)] at closed
    rw [keepLeg_unproductive unproductive]
    exact ⟨fun _ => ⟨closed, free⟩, fun _ same => nomatch same⟩
  · have costs := legCost_ne_zero valid unproductive
    rw [if_pos unproductive] at closed
    rw [keepLeg_productive unproductive]
    refine .last (by omega) fun tail path => ?_
    rw [path.whole_inv produces costs closed]
    exact ⟨fun _ => rfl, fun here => absurd here free⟩

/-- Before the last leg, both keep the segment of the leg. -/
theorem Fuses.leg (valid : walk.Valid zeroForOne) (produces : Produces zeroForOne remaining walk)
    (covers : pool.legOutput zeroForOne walk ≤ remaining)
    (crosses : pool.Crosses zeroForOne walk next)
    (rest : Fuses pool zeroForOne (remaining - pool.legOutput zeroForOne walk)
      (total + pool.legCost zeroForOne walk) (result + pool.legOutput zeroForOne walk)
      (if pool.legOutput zeroForOne walk ≠ 0 then total + pool.legCost zeroForOne walk
        else productive) next capacity kept) :
    Fuses pool zeroForOne remaining total result productive walk capacity
      (keepLeg (pool.legOutput zeroForOne walk) (pool.legCost zeroForOne walk)
        (pool.wholeLeg zeroForOne walk .exactInput total result) kept) := by
  have capped := cappedAt_leg_iff produces covers crosses
  cases kept with
  | none =>
    obtain ⟨none, free⟩ := rest.nothing rfl
    exact .close valid produces (mt capped.mp free) none
  | some kept =>
    rw [keepLeg_some]
    obtain ⟨below, same⟩ := rest.segments kept rfl
    refine .last (by omega) fun tail path => ?_
    have builds : Builds zeroForOne capacity total walk :=
      ⟨by omega, produces.goes, produces.funded⟩
    obtain ⟨next', tail, crosses', rfl, behind⟩ := path.leg_inv builds below.le crosses.ends
    cases crosses.beyond.symm.trans crosses'.beyond
    rw [capped]
    exact (same tail behind).keep _ _

section Last

variable (produces : Produces zeroForOne remaining walk)
  (less : remaining < pool.legOutput zeroForOne walk)

include produces less

/-- Inside the last leg, the step that is computed again is that of the second pass. -/
theorem Sound.fuses_part (sound : pool.Sound) (valid : walk.Valid zeroForOne) {again : SwapStep}
    (inside : pool.partPrice zeroForOne walk remaining ≠
      (pool.boundaryAt zeroForOne walk.tick).sqrtPriceNextX96)
    (computed : pool.inputStep zeroForOne walk (pool.partCost zeroForOne walk remaining) =
      some again) :
    Fuses pool zeroForOne remaining total result productive walk
      (total + pool.partCost zeroForOne walk remaining)
      (some (keepSegment (again.amountIn + again.feeAmount)
        (pool.legSegment zeroForOne walk (total + (again.amountIn + again.feeAmount))
          (result + again.amountOut)) [])) := by
  have costs := partCost_ne_zero valid produces.positive less
  have free : ¬ CappedAt pool zeroForOne remaining walk := by
    intro capped
    cases capped with
    | here _ _ ends meets => exact inside (meets.trans ends)
    | leg _ covers => exact absurd covers (Nat.not_le.mpr less)
  have small : pool.partCost zeroForOne walk remaining < 2 ^ 255 :=
    (lt_of_le_of_lt (sound.partCost_le valid _) (sound.legCost_lt valid)).trans (by norm_num)
  refine .last (by omega) fun tail path => ⟨fun _ => ?_, fun here => absurd here free⟩
  rcases Nat.lt_or_eq_of_le (sound.partCost_le valid remaining) with short | whole
  · obtain ⟨again', computed', part⟩ := sound.inputStep_part valid small short
    cases computed.symm.trans computed'
    obtain ⟨step, same, rfl⟩ := path.part_inv ⟨by omega, produces.goes, produces.funded⟩
      (Nat.add_lt_add_left short total)
    rw [Nat.add_sub_cancel_left] at same
    cases computed.symm.trans same
    rw [part.spent, keepSegment, if_pos costs]
    rfl
  · obtain ⟨again', computed', -, spent, yielded⟩ := sound.inputStep_full valid small whole.ge
    cases computed.symm.trans computed'
    rw [path.whole_inv produces (whole ▸ costs) (congrArg (total + ·) whole), spent, yielded]
    rfl

/-- At a boundary that is reached early, the second pass goes on to the end of the leg. -/
theorem fuses_capped (valid : walk.Valid zeroForOne)
    (meets : pool.partPrice zeroForOne walk remaining =
      (pool.boundaryAt zeroForOne walk.tick).sqrtPriceNextX96) :
    Fuses pool zeroForOne remaining total result productive walk
      (total + pool.partCost zeroForOne walk remaining)
      (some (keepSegment (pool.partCost zeroForOne walk remaining)
        (pool.legSegment zeroForOne walk (total + pool.partCost zeroForOne walk remaining)
          (result + remaining)) [])) := by
  have costs := partCost_ne_zero valid produces.positive less
  have ends : pool.EndsAtTick zeroForOne walk := by
    by_contra elsewhere
    exact partPrice_ne_boundary valid elsewhere produces.positive less meets
  have atTarget : pool.partPrice zeroForOne walk remaining = pool.target zeroForOne walk :=
    meets.trans ends.symm
  have whole : pool.partCost zeroForOne walk remaining = pool.legCost zeroForOne walk :=
    costOf_of_target atTarget
  refine .last (by omega) fun tail path => ⟨fun free => ?_, fun _ => ?_⟩
  · exact absurd (.here produces less ends atTarget) free
  · rw [path.whole_inv produces (whole ▸ costs) (congrArg (total + ·) whole), whole, keepSegment,
      if_pos (whole ▸ costs), keepSegment, if_pos (whole ▸ costs)]
    refine ⟨[], _, _, rfl, rfl, ?_⟩
    show result + remaining ≠ result + pool.legOutput zeroForOne walk
    omega

end Last

theorem Sound.fuses (sound : pool.Sound) (valid : walk.Valid zeroForOne)
    (fused : FusedTail pool zeroForOne remaining total result walk kept)
    (path : OutputPath pool zeroForOne ⟨remaining, total, productive⟩ walk final) :
    Fuses pool zeroForOne remaining total result productive walk final.productive kept := by
  induction fused generalizing productive with
  | @stop remaining total result walk stops =>
    rw [outputPath_stop_iff stops] at path
    subst path
    refine ⟨fun _ => ⟨rfl, ?_⟩, fun _ same => nomatch same⟩
    intro capped
    cases capped with
    | here produces | leg produces => exact stops produces
  | @leg remaining total result walk next kept produces covers crosses rest ih =>
    obtain ⟨next', crossed, path⟩ := (outputPath_leg_iff produces covers crosses.ends).mp path
    cases crosses.beyond.symm.trans crossed
    exact .leg valid produces covers crosses (ih (crosses.valid valid) path)
  | limit produces covers elsewhere =>
    rw [outputPath_limit_iff produces covers elsewhere] at path
    subst path
    exact .close valid produces (not_cappedAt_of_limit elsewhere) rfl
  | part produces less inside computed =>
    obtain ⟨-, rfl⟩ := (outputPath_part_iff produces less).mp path
    rw [keepLeg_productive produces.positive, OutputTotals.after, if_pos produces.positive]
    exact sound.fuses_part produces less valid inside computed
  | capped produces less meets =>
    obtain ⟨-, rfl⟩ := (outputPath_part_iff produces less).mp path
    rw [keepLeg_productive produces.positive, OutputTotals.after, if_pos produces.positive]
    exact fuses_capped produces less valid meets

end TwoPass

/-! ## The curves -/

section Curves

variable {pool : ClmmPool} {zeroForOne : Bool} {maximumAmountOut capacity : Nat}
  {fused curve : PreparedQuoteCurve} {previous previous' : Option PreparedQuoteCurve}

/-- What the fused builder that returns has checked and built. -/
theorem Sound.fused_built (sound : pool.Sound)
    (built : pool.prepareExactInputCurveBoundedByExactOutputReusing zeroForOne maximumAmountOut
      previous = .ok fused) :
    maximumAmountOut ≠ 0 ∧ maximumAmountOut < 2 ^ 255 ∧ CurveOf pool zeroForOne .exactInput fused ∧
      ∃ kept, FusedTail pool zeroForOne maximumAmountOut 0 0 pool.start kept ∧
        fused.segments = kept.getD [] := by
  simp only [prepareExactInputCurveBoundedByExactOutputReusing, bind_eq_ok, require_eq_ok,
    exists_const, pure_eq_ok] at built
  obtain ⟨positive, bounded, final, ran, rfl⟩ := built
  obtain ⟨kept, same, path⟩ := sound.fused sound.valid_start (Nat.zero_le _) ran
  refine ⟨positive, bounded, ⟨rfl, rfl⟩, kept, path, ?_⟩
  have none : clearedSegments previous = [] := by cases previous <;> rfl
  refine Eq.trans same ?_
  simp only [Fusing.keeping, none]
  cases kept <;> rfl

/-- The fused curve and the curve of two passes have one capacity, one result there, the same ends of
segments and the same quotes, exactly if the last output is not capped at a boundary. -/
theorem fused_curve_eq_iff (sound : pool.Sound)
    (bounded : pool.exactOutputResultCapacityBounded zeroForOne maximumAmountOut = .ok capacity)
    (positive : 0 < capacity)
    (once : pool.prepareExactInputCurveBoundedByExactOutputReusing zeroForOne maximumAmountOut
      previous = .ok fused)
    (twice : pool.prepareQuoteCurveReusing zeroForOne .exactInput capacity previous' = .ok curve) :
    (fused.specifiedCapacity = curve.specifiedCapacity ∧
      fused.resultCapacity = curve.resultCapacity ∧
      fused.specifiedBoundaries = curve.specifiedBoundaries ∧
      ∀ amount, fused.quote amount = curve.quote amount) ↔
      ¬ CappedAt pool zeroForOne maximumAmountOut pool.start := by
  obtain ⟨some, small, ⟨kind, fee⟩, kept, tail, segments⟩ := sound.fused_built once
  obtain ⟨-, -, ⟨kind', fee'⟩, path⟩ := sound.built twice
  obtain ⟨remaining, paid, pays⟩ :=
    (sound.exactOutputResultCapacityBounded_iff some small).mp bounded
  have fuses := sound.fuses sound.valid_start tail pays
  rcases kept with _ | kept
  · have none : capacity = 0 := (fuses.nothing rfl).1
    omega
  obtain ⟨-, same⟩ := fuses.segments kept rfl
  replace segments : fused.segments = kept := segments
  obtain ⟨free, differs⟩ := same curve.segments path
  constructor
  · rintro ⟨-, results, -, -⟩ capped
    obtain ⟨front, last, last', atEnd, atEnd', ne⟩ := differs capped
    unfold PreparedQuoteCurve.resultCapacity at results
    rw [segments, atEnd, atEnd', List.getLast?_concat, List.getLast?_concat] at results
    exact ne results
  · intro uncapped
    have equal : fused = curve := by
      rcases fused with ⟨kind₁, fee₁, segments₁⟩
      rcases curve with ⟨kind₂, fee₂, segments₂⟩
      cases kind.trans kind'.symm
      cases fee.trans fee'.symm
      cases segments.trans (free uncapped)
      rfl
    subst equal
    exact ⟨rfl, rfl, rfl, fun _ => rfl⟩

end Curves

/-- The curve of both builders away from the boundary. -/
def inputCurveUp : PreparedQuoteCurve :=
  ⟨.exactInput, 3000,
    [⟨1005, 1000, 2 ^ 96 + 1, 170254363637599206452736906702, 10 ^ 18⟩]⟩

theorem fused_curve_away_from_the_boundary :
    (aboveBoundary.prepareExactInputCurveBoundedByExactOutputReusing false 1000 none >>=
        (·.quote 500)) =
      (aboveBoundary.prepareExactInputCurveBounded false 1005 >>= (·.quote 500)) := by
  have bounded : aboveBoundary.exactOutputResultCapacityBounded false 1000 = .ok 1005 := by
    decide +kernel
  have once : aboveBoundary.prepareExactInputCurveBoundedByExactOutputReusing false 1000 none =
      .ok inputCurveUp := by
    decide +kernel
  have twice : aboveBoundary.prepareExactInputCurveBounded false 1005 = .ok inputCurveUp := by
    decide +kernel
  have long : ¬ aboveBoundary.legOutput false aboveBoundary.start ≤ 1000 := by decide +kernel
  have short : aboveBoundary.partPrice false aboveBoundary.start 1000 ≠
      aboveBoundary.target false aboveBoundary.start := by
    decide +kernel
  have uncapped : ¬ CappedAt aboveBoundary false 1000 aboveBoundary.start := by
    intro capped
    cases capped with
    | here _ _ _ meets => exact short meets
    | leg _ covers => exact long covers
  obtain ⟨-, -, -, quotes⟩ := (fused_curve_eq_iff aboveBoundary_reachable.sound bounded
    (by norm_num) once twice).mpr uncapped
  calc (aboveBoundary.prepareExactInputCurveBoundedByExactOutputReusing false 1000 none >>=
        (·.quote 500))
      = inputCurveUp.quote 500 := by rw [once, ok_bind]
    _ = inputCurveUp.quote 500 := quotes 500
    _ = (aboveBoundary.prepareExactInputCurveBounded false 1005 >>= (·.quote 500)) := by
        rw [twice, ok_bind]

/-- A pool one step of the price above a word boundary, so deep that the step yields many units. -/
def deepPool : ClmmPool :=
  fresh 3000 60 (2 ^ 96 + 1) 0 (2 ^ 127)

theorem deepPool_reachable : deepPool.Reachable :=
  .fresh (by norm_num) rfl

/-- The curve of one leg with this result at its end. -/
def deepCurve (resultEnd : Nat) : PreparedQuoteCurve :=
  ⟨.exactInput, 3000, [⟨2153945485, resultEnd, 2 ^ 96 + 1, 2 ^ 96, 2 ^ 127⟩]⟩

/-- For one unit of output, the fused curve has a result of one at its end, and the curve of two
passes all that the step yields. -/
theorem fused_curve_is_capped_at_the_boundary :
    deepPool.Reachable ∧ deepPool.Coherent ∧
      deepPool.exactOutputResultCapacityBounded true 1 = .ok 2153945485 ∧
      deepPool.prepareExactInputCurveBoundedByExactOutputReusing true 1 none = .ok (deepCurve 1) ∧
      deepPool.prepareExactInputCurveBounded true 2153945485 = .ok (deepCurve 2147483648) ∧
      (deepCurve 1).quote 2153945485 = .ok 1 ∧
      (deepCurve 2147483648).quote 2153945485 = .ok 2147483648 :=
  ⟨deepPool_reachable, by decide +kernel, by decide +kernel, by decide +kernel, by decide +kernel,
    by decide +kernel, by decide +kernel⟩

end ClmmPool

end PolyBot.Dex
