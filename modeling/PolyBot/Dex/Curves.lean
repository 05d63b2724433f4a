import PolyBot.Dex.Paths

/-!
# Prepared curves as paths

A builder walks the same legs as a quote and keeps a segment for each that moved something of the
specified amount.  `Tail` is the list of the segments that are kept from some point of the traversal
on, for either kind of curve, and a quote on a curve searches such a list from its start.

* `ClmmPool.Sound.keeps_tail`: every curve that is returned is the tail from the start of the traversal.
* `PreparedQuoteCurve.quote_eq`: the quote by index is the quote by search from the start.
* `ClmmPool.Tail.quote_above_capacity`: nothing is quoted above the capacity.
-/

namespace PolyBot.Dex

open SwapMath List

/-- The result of a step. -/
def PreparedQuoteKind.result : PreparedQuoteKind → SwapStep → Nat
  | exactInput, step => step.amountOut
  | exactOutput, step => step.amountIn + step.feeAmount

/-- The segments after one that is kept unless nothing was specified on it. -/
def keepSegment (specifiedStep : Nat) (segment : PreparedQuoteSegment)
    (tail : List PreparedQuoteSegment) : List PreparedQuoteSegment :=
  if specifiedStep ≠ 0 then segment :: tail else tail

theorem mem_keepSegment {specifiedStep : Nat} {segment : PreparedQuoteSegment}
    {tail : List PreparedQuoteSegment} (kept : specifiedStep ≠ 0) :
    segment ∈ keepSegment specifiedStep segment tail := by
  rw [keepSegment, if_pos kept]
  exact mem_cons_self ..

theorem pushSegment_append (segments tail : List PreparedQuoteSegment) (specifiedStep : Nat)
    (segment : PreparedQuoteSegment) :
    ClmmPool.pushSegment segments specifiedStep segment ++ tail =
      segments ++ keepSegment specifiedStep segment tail := by
  unfold ClmmPool.pushSegment keepSegment
  split
  · rw [append_assoc]
    rfl
  · rfl

variable {pool : ClmmPool} {zeroForOne : Bool} {kind : PreparedQuoteKind} {walk : Walk}
  {amount bound total result : Nat} {tail : List PreparedQuoteSegment} {curve : PreparedQuoteCurve}

namespace ClmmPool

section Legs

variable (pool zeroForOne walk)

/-- What the whole leg takes of the specified amount. -/
def legSpecified : PreparedQuoteKind → Nat
  | .exactInput => pool.legCost zeroForOne walk
  | .exactOutput => pool.legOutput zeroForOne walk

/-- What the whole leg results in. -/
def legResult : PreparedQuoteKind → Nat
  | .exactInput => pool.legOutput zeroForOne walk
  | .exactOutput => pool.legCost zeroForOne walk

/-- The segment of a leg that ends at these totals. -/
def legSegment (specifiedEnd resultEnd : Nat) : PreparedQuoteSegment :=
  ⟨specifiedEnd, resultEnd, walk.sqrtPriceX96, pool.target zeroForOne walk, walk.liquidity⟩

/-- The segment of the whole leg, which starts at these totals. -/
def wholeLeg (kind : PreparedQuoteKind) (total result : Nat) : PreparedQuoteSegment :=
  pool.legSegment zeroForOne walk (total + pool.legSpecified zeroForOne walk kind)
    (result + pool.legResult zeroForOne walk kind)

/-- The step of either kind on a leg. -/
def kindStep (kind : PreparedQuoteKind) (amount : Nat) : Option SwapStep :=
  computeSwapStep walk.sqrtPriceX96 (pool.target zeroForOne walk) walk.liquidity
    (kind.signed amount) (pool.feePipsForDirection zeroForOne)

end Legs

/-- A builder goes on: it has not reached its bound, the limit, or a range without liquidity. -/
structure Builds (zeroForOne : Bool) (bound total : Nat) (walk : Walk) : Prop where
  below : total < bound
  goes : walk.sqrtPriceX96 ≠ sqrtPriceLimitX96 zeroForOne
  funded : walk.liquidity ≠ 0

/-- The segments a builder keeps from here on, with its two totals so far. -/
inductive Tail (pool : ClmmPool) (zeroForOne : Bool) (kind : PreparedQuoteKind) (bound : Nat) :
    Nat → Nat → Walk → List PreparedQuoteSegment → Prop
  | stop {total result : Nat} {walk : Walk} (stops : ¬ Builds zeroForOne bound total walk) :
      Tail pool zeroForOne kind bound total result walk []
  | leg {total result : Nat} {walk next : Walk} {tail : List PreparedQuoteSegment}
      (builds : Builds zeroForOne bound total walk)
      (covers : total + pool.legSpecified zeroForOne walk kind ≤ bound)
      (crosses : pool.Crosses zeroForOne walk next)
      (rest : Tail pool zeroForOne kind bound (total + pool.legSpecified zeroForOne walk kind)
        (result + pool.legResult zeroForOne walk kind) next tail) :
      Tail pool zeroForOne kind bound total result walk
        (keepSegment (pool.legSpecified zeroForOne walk kind)
          (pool.wholeLeg zeroForOne walk kind total result) tail)
  | limit {total result : Nat} {walk : Walk} (builds : Builds zeroForOne bound total walk)
      (covers : total + pool.legSpecified zeroForOne walk kind ≤ bound)
      (elsewhere : ¬ pool.EndsAtTick zeroForOne walk) :
      Tail pool zeroForOne kind bound total result walk
        (keepSegment (pool.legSpecified zeroForOne walk kind)
          (pool.wholeLeg zeroForOne walk kind total result) [])
  | part {total result : Nat} {walk : Walk} {step : SwapStep}
      (builds : Builds zeroForOne bound total walk)
      (less : bound < total + pool.legSpecified zeroForOne walk kind)
      (computed : pool.kindStep zeroForOne walk kind (bound - total) = some step)
      (passes : pool.Passes zeroForOne walk step.sqrtRatioNext) :
      Tail pool zeroForOne kind bound total result walk
        [pool.legSegment zeroForOne walk bound (result + kind.result step)]

section Inversion

variable (path : Tail pool zeroForOne kind bound total result walk tail)

include path

theorem Tail.stop_inv (stops : ¬ Builds zeroForOne bound total walk) : tail = [] := by
  cases path with
  | stop => rfl
  | leg builds | limit builds | part builds => exact absurd builds stops

variable (builds : Builds zeroForOne bound total walk)

include builds

theorem Tail.leg_inv (covers : total + pool.legSpecified zeroForOne walk kind ≤ bound)
    (ends : pool.EndsAtTick zeroForOne walk) :
    ∃ next rest, pool.Crosses zeroForOne walk next ∧
      tail = keepSegment (pool.legSpecified zeroForOne walk kind)
        (pool.wholeLeg zeroForOne walk kind total result) rest ∧
      Tail pool zeroForOne kind bound (total + pool.legSpecified zeroForOne walk kind)
        (result + pool.legResult zeroForOne walk kind) next rest := by
  cases path with
  | stop stops => exact absurd builds stops
  | leg _ _ crosses rest => exact ⟨_, _, crosses, rfl, rest⟩
  | limit _ _ elsewhere => exact absurd ends elsewhere
  | part _ less => exact absurd covers (Nat.not_le.mpr less)

theorem Tail.limit_inv (covers : total + pool.legSpecified zeroForOne walk kind ≤ bound)
    (elsewhere : ¬ pool.EndsAtTick zeroForOne walk) :
    tail = keepSegment (pool.legSpecified zeroForOne walk kind)
      (pool.wholeLeg zeroForOne walk kind total result) [] := by
  cases path with
  | stop stops => exact absurd builds stops
  | leg _ _ crosses => exact absurd crosses.ends elsewhere
  | limit => rfl
  | part _ less => exact absurd covers (Nat.not_le.mpr less)

theorem Tail.part_inv (less : bound < total + pool.legSpecified zeroForOne walk kind) :
    ∃ step, pool.kindStep zeroForOne walk kind (bound - total) = some step ∧
      tail = [pool.legSegment zeroForOne walk bound (result + kind.result step)] := by
  cases path with
  | stop stops => exact absurd builds stops
  | leg _ covers | limit _ covers => exact absurd covers (Nat.not_le.mpr less)
  | part _ _ computed => exact ⟨_, computed, rfl⟩

end Inversion

section Build

theorem Sound.kindStep_full (sound : pool.Sound) (valid : walk.Valid zeroForOne)
    (positive : amount ≠ 0) (bounded : amount < 2 ^ 255)
    (covers : pool.legSpecified zeroForOne walk kind ≤ amount) :
    ∃ step, pool.kindStep zeroForOne walk kind amount = some step ∧
      step.sqrtRatioNext = pool.target zeroForOne walk ∧
      kind.moved step = pool.legSpecified zeroForOne walk kind ∧
      kind.result step = pool.legResult zeroForOne walk kind := by
  have priced := valid.priced pool
  cases kind with
  | exactInput =>
    exact ⟨_, computeSwapStep_input_full priced sound.fee_lt (by omega) covers, rfl, rfl, rfl⟩
  | exactOutput =>
    exact ⟨_, computeSwapStep_output_full priced sound.fee_lt (Nat.pos_of_ne_zero positive) covers,
      rfl, rfl, rfl⟩

theorem Sound.kindStep_part (sound : pool.Sound) (valid : walk.Valid zeroForOne)
    (positive : amount ≠ 0) (bounded : amount < 2 ^ 255)
    (less : amount < pool.legSpecified zeroForOne walk kind) :
    ∃ step, pool.kindStep zeroForOne walk kind amount = some step ∧ kind.moved step = amount := by
  have priced := valid.priced pool
  cases kind with
  | exactInput =>
    obtain ⟨step, computed, part⟩ :=
      computeSwapStep_input_part priced sound.fee_lt (by omega) less
    exact ⟨step, computed, part.spent⟩
  | exactOutput =>
    obtain ⟨step, computed, -, produced, -⟩ :=
      computeSwapStep_output_part priced sound.fee_lt (Nat.pos_of_ne_zero positive) less
    exact ⟨step, computed, produced⟩

variable {segments : List PreparedQuoteSegment}

/-- What a round of the builder that succeeds has done. -/
theorem Sound.building_body (sound : pool.Sound) {outcome : ForInStep Building}
    (ran : Building.body pool zeroForOne kind bound ⟨total, result, segments, walk⟩ = .ok outcome) :
    ∃ step, pool.kindStep zeroForOne walk kind (bound - total) = some step ∧
      ((step.sqrtRatioNext = (pool.boundaryAt zeroForOne walk.tick).sqrtPriceNextX96 ∧
        ∃ next, pool.beyond zeroForOne walk = some next ∧
          outcome = .yield ⟨total + kind.moved step, result + kind.result step,
            pushSegment segments (kind.moved step) (pool.legSegment zeroForOne walk
              (total + kind.moved step) (result + kind.result step)), next⟩) ∨
      (step.sqrtRatioNext ≠ (pool.boundaryAt zeroForOne walk.tick).sqrtPriceNextX96 ∧
        outcome = .done ⟨total + kind.moved step, result + kind.result step,
          pushSegment segments (kind.moved step) (pool.legSegment zeroForOne walk
            (total + kind.moved step) (result + kind.result step)),
          { walk with sqrtPriceX96 := step.sqrtRatioNext }⟩)) := by
  simp only [Building.body, sound.nextBoundary_eq, ok_bind, bind_eq_ok, orError_eq_ok,
    checkedAdd_eq_some, checkedSub_eq_some] at ran
  obtain ⟨remaining, ⟨-, rfl⟩, step, computed, inputWithFee, ⟨-, rfl⟩, specifiedEnd, ⟨-, rfl⟩,
    resultEnd, ⟨-, rfl⟩, ran⟩ := ran
  have moved : (kind.amounts (step.amountIn + step.feeAmount) step.amountOut).1 = kind.moved step := by
    cases kind <;> rfl
  have resulted : (kind.amounts (step.amountIn + step.feeAmount) step.amountOut).2 =
      kind.result step := by
    cases kind <;> rfl
  rw [moved, resulted] at ran
  refine ⟨step, computed, ?_⟩
  split at ran
  · rename_i reached
    simp only [bind_eq_ok, pure_eq_ok] at ran
    obtain ⟨next, crossed, rfl⟩ := ran
    exact Or.inl ⟨reached, next, beyond_eq_some.mpr crossed, rfl⟩
  · rename_i inside
    rw [pure_eq_ok] at ran
    exact Or.inr ⟨inside, ran.symm⟩

theorem building_condition_iff {state : Building} :
    Building.condition zeroForOne bound state = true ↔
      Builds zeroForOne bound state.specifiedTotal state.walk := by
  simp only [Building.condition, decide_eq_true_eq]
  constructor <;> rintro ⟨below, goes, funded⟩ <;> exact ⟨below, goes, funded⟩

variable {step : SwapStep}

theorem Sound.kindStep_covers (sound : pool.Sound) (valid : walk.Valid zeroForOne)
    (bounded : bound < 2 ^ 255) (builds : Builds zeroForOne bound total walk)
    (covers : total + pool.legSpecified zeroForOne walk kind ≤ bound)
    (computed : pool.kindStep zeroForOne walk kind (bound - total) = some step) :
    step.sqrtRatioNext = pool.target zeroForOne walk ∧
      kind.moved step = pool.legSpecified zeroForOne walk kind ∧
      kind.result step = pool.legResult zeroForOne walk kind := by
  have below := builds.below
  have positive : bound - total ≠ 0 := by omega
  have enough : pool.legSpecified zeroForOne walk kind ≤ bound - total := by omega
  obtain ⟨step', computed', facts⟩ := sound.kindStep_full valid positive (by omega) enough
  cases computed.symm.trans computed'
  exact facts

/-- A step inside its leg moves all that is left to the bound. -/
theorem Sound.kindStep_inside (sound : pool.Sound) (valid : walk.Valid zeroForOne)
    (bounded : bound < 2 ^ 255) (builds : Builds zeroForOne bound total walk)
    (less : bound < total + pool.legSpecified zeroForOne walk kind)
    (computed : pool.kindStep zeroForOne walk kind (bound - total) = some step) :
    kind.moved step = bound - total := by
  have below := builds.below
  obtain ⟨step', computed', moved⟩ := sound.kindStep_part valid (by omega) (by omega)
    (show bound - total < pool.legSpecified zeroForOne walk kind by omega)
  cases computed.symm.trans computed'
  exact moved

/-- A segment that ends at the bound is kept. -/
theorem pushSegment_part (builds : Builds zeroForOne bound total walk)
    (moved : kind.moved step = bound - total) :
    pushSegment segments (kind.moved step) (pool.legSegment zeroForOne walk
        (total + kind.moved step) (result + kind.result step)) =
      segments ++ [pool.legSegment zeroForOne walk bound (result + kind.result step)] := by
  have below := builds.below
  have positive : bound - total ≠ 0 := by omega
  have whole : total + (bound - total) = bound := by omega
  rw [moved, whole, pushSegment, if_pos positive]

/-- The builder keeps the segments of the tail from where it stands. -/
theorem Sound.keeps_tail (sound : pool.Sound) (bounded : bound < 2 ^ 255) {rounds : Nat}
    {final : Building} (valid : walk.Valid zeroForOne)
    (ran : pool.buildLoop zeroForOne kind bound rounds ⟨total, result, segments, walk⟩ =
      .ok final) :
    ∃ tail, final.segments = segments ++ tail ∧
      Tail pool zeroForOne kind bound total result walk tail := by
  induction rounds generalizing total result segments walk with
  | zero => cases ran
  | succ rounds ih =>
    rcases whileLoop_cases ran with ⟨stop, rfl⟩ | ⟨go, body⟩ | ⟨next, go, body, rest⟩
    · refine ⟨[], (append_nil _).symm, .stop ?_⟩
      intro builds
      rw [building_condition_iff.mpr builds] at stop
      cases stop
    · have builds : Builds zeroForOne bound total walk := building_condition_iff.mp go
      obtain ⟨step, computed, ⟨-, next, -, impossible⟩ | ⟨inside, same⟩⟩ := sound.building_body body
      · cases impossible
      cases same
      by_cases covers : total + pool.legSpecified zeroForOne walk kind ≤ bound
      · obtain ⟨reached, moved, resulted⟩ := sound.kindStep_covers valid bounded builds covers computed
        refine ⟨_, ?_, .limit builds covers fun ends => inside (reached.trans ends)⟩
        rw [moved, resulted, ← pushSegment_append, append_nil, wholeLeg]
      · have less := Nat.not_le.mp covers
        refine ⟨_, ?_, .part builds less computed fun atBoundary => absurd atBoundary inside⟩
        exact pushSegment_part builds (sound.kindStep_inside valid bounded builds less computed)
    · have builds : Builds zeroForOne bound total walk := building_condition_iff.mp go
      obtain ⟨step, computed, ⟨reached, next, crossed, same⟩ | ⟨-, impossible⟩⟩ :=
        sound.building_body body
      case inr => cases impossible
      cases same
      by_cases covers : total + pool.legSpecified zeroForOne walk kind ≤ bound
      · obtain ⟨atTarget, moved, resulted⟩ :=
          sound.kindStep_covers valid bounded builds covers computed
        have crosses : pool.Crosses zeroForOne walk next := ⟨atTarget.symm.trans reached, crossed⟩
        rw [moved, resulted] at rest
        obtain ⟨tail, kept, path⟩ := ih (crosses.valid valid) rest
        refine ⟨_, ?_, .leg builds covers crosses path⟩
        rw [kept, pushSegment_append, wholeLeg]
      · -- the bound is met, so the next round is the last
        have less := Nat.not_le.mp covers
        have moved := sound.kindStep_inside valid bounded builds less computed
        refine ⟨_, ?_, .part builds less computed fun _ => ⟨next, crossed⟩⟩
        rw [← pushSegment_part builds moved]
        rcases rounds with _ | rounds
        · cases rest
        · have stop : Building.condition zeroForOne bound ⟨total + kind.moved step,
              result + kind.result step, pushSegment segments (kind.moved step)
                (pool.legSegment zeroForOne walk (total + kind.moved step)
                  (result + kind.result step)), next⟩ = false := by
            simp only [Building.condition, decide_eq_false_iff_not]
            omega
          rw [whileLoop_stop stop] at rest
          cases rest
          rfl

end Build

end ClmmPool

/-! ## Quotes by search -/

namespace PreparedQuoteCurve

/-- The quote on a list of segments that starts at the given totals. -/
def quoteFrom (curve : PreparedQuoteCurve) (amount : Nat) :
    Nat → Nat → List PreparedQuoteSegment → Except ClmmError Nat
  | _, _, [] => .error .insufficientLiquidity
  | specifiedStart, resultStart, segment :: rest =>
    if segment.specifiedEnd < amount then
      quoteFrom curve amount segment.specifiedEnd segment.resultEnd rest
    else curve.quoteSegment segment specifiedStart resultStart amount

variable {specifiedStep : Nat} {segment : PreparedQuoteSegment} (curve)

/-- Past the step, the search goes on behind it, from its end if it was kept. -/
theorem quoteFrom_keep (result : Nat) (specified : segment.specifiedEnd = total + specifiedStep)
    (behind : total + specifiedStep < amount) :
    curve.quoteFrom amount total result (keepSegment specifiedStep segment tail) =
      curve.quoteFrom amount (total + specifiedStep)
        (if specifiedStep = 0 then result else segment.resultEnd) tail := by
  by_cases zero : specifiedStep = 0
  · rw [keepSegment, if_neg (not_not.mpr zero), if_pos zero, zero]
    rfl
  · rw [keepSegment, if_pos zero, if_neg zero, quoteFrom, specified, if_pos behind]

/-- Where a step that specifies nothing results in nothing, it makes no difference. -/
theorem quoteFrom_keep_behind {resultStep : Nat}
    (specified : segment.specifiedEnd = total + specifiedStep)
    (resulted : segment.resultEnd = result + resultStep)
    (nothing : specifiedStep = 0 → resultStep = 0) (behind : total + specifiedStep < amount) :
    curve.quoteFrom amount total result (keepSegment specifiedStep segment tail) =
      curve.quoteFrom amount (total + specifiedStep) (result + resultStep) tail := by
  rw [curve.quoteFrom_keep result specified behind]
  split
  · rename_i zero
    rw [nothing zero, Nat.add_zero]
  · rw [resulted]

/-- Within the step, the quote is on its segment. -/
theorem quoteFrom_keep_inside (specified : segment.specifiedEnd = total + specifiedStep)
    (above : total < amount) (inside : amount ≤ total + specifiedStep) :
    curve.quoteFrom amount total result (keepSegment specifiedStep segment tail) =
      curve.quoteSegment segment total result amount := by
  have moved : specifiedStep ≠ 0 := by omega
  rw [keepSegment, if_pos moved, quoteFrom, specified, if_neg (Nat.not_lt.mpr inside)]

/-- Up to the end of the last segment, the quote is on it. -/
theorem quoteFrom_last (inside : amount ≤ segment.specifiedEnd) :
    curve.quoteFrom amount total result [segment] =
      curve.quoteSegment segment total result amount := by
  rw [quoteFrom, if_neg (Nat.not_lt.mpr inside)]

/-- Where the segment at an index of a list starts. -/
def startIn (specifiedStart resultStart : Nat) (segments : List PreparedQuoteSegment) :
    Nat → Nat × Nat
  | 0 => (specifiedStart, resultStart)
  | index + 1 => match segments[index]? with
    | some previous => (previous.specifiedEnd, previous.resultEnd)
    | none => (specifiedStart, resultStart)

theorem startIn_cons {rest : List PreparedQuoteSegment} {index specifiedStart resultStart : Nat}
    (inside : index ≤ rest.length) :
    startIn specifiedStart resultStart (segment :: rest) (index + 1) =
      startIn segment.specifiedEnd segment.resultEnd rest index := by
  rcases index with _ | index
  · rfl
  · have before : index < rest.length := inside
    simp only [startIn, getElem?_cons_succ, getElem?_eq_getElem before]

theorem quoteFrom_eq (amount : Nat) (segments : List PreparedQuoteSegment)
    (specifiedStart resultStart : Nat) :
    curve.quoteFrom amount specifiedStart resultStart segments =
      (let index := segments.findIdx fun segment => ¬ segment.specifiedEnd < amount
      orError segments[index]? .insufficientLiquidity >>= fun segment =>
        curve.quoteSegment segment (startIn specifiedStart resultStart segments index).1
          (startIn specifiedStart resultStart segments index).2 amount) := by
  induction segments generalizing specifiedStart resultStart with
  | nil => rfl
  | cons segment rest ih =>
    by_cases before : segment.specifiedEnd < amount
    · have index : (segment :: rest).findIdx (fun segment => ¬ segment.specifiedEnd < amount) =
          rest.findIdx (fun segment => ¬ segment.specifiedEnd < amount) + 1 := by
        rw [findIdx_cons]
        simp [before]
      rw [quoteFrom, if_pos before, ih, index]
      simp only [getElem?_cons_succ, startIn_cons findIdx_le_length]
    · have index : (segment :: rest).findIdx (fun segment => ¬ segment.specifiedEnd < amount) = 0 := by
        rw [findIdx_cons]
        simp [before]
      rw [quoteFrom, if_neg before, index]
      rfl

/-- The quote by index is the quote by search from the start. -/
theorem quote_eq (positive : amount ≠ 0) (bounded : amount < 2 ^ 255) :
    curve.quote amount = curve.quoteFrom amount 0 0 curve.segments := by
  have start : ∀ index, curve.startOf index = startIn 0 0 curve.segments index := by
    intro index
    cases index with
    | zero | succ => rfl
  simp only [quote, require_of positive, require_of bounded, ok_bind, quoteFrom_eq, segmentIndex,
    start]

theorem quote_eq_ok {curve : PreparedQuoteCurve} (quoted : curve.quote amount = .ok result) :
    amount ≠ 0 ∧ amount < 2 ^ 255 ∧ curve.quoteFrom amount 0 0 curve.segments = .ok result := by
  have checks := quoted
  simp only [quote, bind_eq_ok, require_eq_ok, exists_const] at checks
  obtain ⟨positive, bounded, -⟩ := checks
  exact ⟨positive, bounded, (curve.quote_eq positive bounded) ▸ quoted⟩

end PreparedQuoteCurve

open PreparedQuoteCurve

namespace ClmmPool

/-! ## Segments in order -/

/-- The segments of a curve end further and further out. -/
theorem Tail.sorted (path : Tail pool zeroForOne kind bound total result walk tail) :
    tail.Pairwise (fun first second => first.specifiedEnd < second.specifiedEnd) ∧
      ∀ segment ∈ tail, total < segment.specifiedEnd := by
  induction path with
  | stop stops => exact ⟨.nil, forall_mem_nil _⟩
  | leg builds covers crosses rest ih =>
    obtain ⟨sorted, above⟩ := ih
    unfold keepSegment
    split
    · refine ⟨pairwise_cons.mpr ⟨above, sorted⟩, ?_⟩
      intro segment mem
      rcases mem_cons.mp mem with rfl | mem
      · show _ < _ + _
        omega
      · have := above segment mem
        omega
    · refine ⟨sorted, ?_⟩
      intro segment mem
      have := above segment mem
      omega
  | limit builds covers elsewhere =>
    unfold keepSegment
    split
    · refine ⟨pairwise_singleton .., ?_⟩
      intro segment mem
      rw [mem_singleton] at mem
      subst mem
      show _ < _ + _
      omega
    · exact ⟨.nil, forall_mem_nil _⟩
  | part builds less computed passes =>
    refine ⟨pairwise_singleton .., ?_⟩
    intro segment mem
    rw [mem_singleton] at mem
    subst mem
    exact builds.below

/-- No segment ends beyond the bound. -/
theorem Tail.end_le (path : Tail pool zeroForOne kind bound total result walk tail) :
    ∀ segment ∈ tail, segment.specifiedEnd ≤ bound := by
  induction path with
  | stop stops => exact forall_mem_nil _
  | leg builds covers crosses rest ih =>
    intro segment mem
    unfold keepSegment at mem
    split at mem
    · rcases mem_cons.mp mem with rfl | mem
      · exact covers
      · exact ih segment mem
    · exact ih segment mem
  | limit builds covers elsewhere =>
    intro segment mem
    unfold keepSegment at mem
    split at mem
    · rw [mem_singleton.mp mem]
      exact covers
    · exact absurd mem not_mem_nil
  | part builds less computed passes =>
    intro segment mem
    rw [mem_singleton.mp mem]
    exact le_rfl

/-- Up to the capacity, an amount lies before the end of some segment. -/
theorem Tail.le_capacity_iff (path : Tail pool zeroForOne kind bound 0 result walk curve.segments)
    (positive : amount ≠ 0) :
    amount ≤ curve.specifiedCapacity ↔ ∃ segment ∈ curve.segments, amount ≤ segment.specifiedEnd := by
  unfold specifiedCapacity
  rcases eq_nil_or_concat curve.segments with none | ⟨front, last, split⟩
  · rw [none]
    simp [positive]
  · have sorted := path.sorted.1
    rw [split, concat_eq_append] at sorted ⊢
    rw [getLast?_concat]
    constructor
    · intro within
      exact ⟨last, mem_append_right _ (mem_singleton.mpr rfl), within⟩
    · rintro ⟨segment, mem, within⟩
      rcases mem_append.mp mem with inFront | isLast
      · have less := (pairwise_append.mp sorted).2.2 segment inFront last
          (mem_singleton.mpr rfl)
        exact within.trans less.le
      · rw [mem_singleton.mp isLast] at within
        exact within

theorem quoteFrom_error (start startResult : Nat) {segments : List PreparedQuoteSegment}
    (below : ∀ segment ∈ segments, segment.specifiedEnd < amount) :
    curve.quoteFrom amount start startResult segments = .error .insufficientLiquidity := by
  induction segments generalizing start startResult with
  | nil => rfl
  | cons segment rest ih =>
    rw [quoteFrom, if_pos (below segment (mem_cons_self ..))]
    exact ih _ _ fun other mem => below other (mem_cons_of_mem _ mem)

/-- Nothing is quoted above the end of the last segment. -/
theorem Tail.quote_above_capacity
    (path : Tail pool zeroForOne kind bound 0 result walk curve.segments)
    (above : curve.specifiedCapacity < amount) : ∃ e, curve.quote amount = .error e := by
  by_cases bounded : amount < 2 ^ 255
  · have positive : amount ≠ 0 := by omega
    refine ⟨.insufficientLiquidity, ?_⟩
    rw [curve.quote_eq positive bounded]
    apply quoteFrom_error
    intro segment mem
    by_contra within
    have inside := (path.le_capacity_iff positive).mpr ⟨segment, mem, Nat.not_lt.mp within⟩
    omega
  · rcases quoted : curve.quote amount with e | value
    · exact ⟨e, rfl⟩
    · exact absurd (quote_eq_ok quoted).2.1 bounded

/-! ## What a builder returns -/

/-- A curve of this kind in this direction. -/
structure CurveOf (pool : ClmmPool) (zeroForOne : Bool) (kind : PreparedQuoteKind)
    (curve : PreparedQuoteCurve) : Prop where
  kind : curve.kind = kind
  fee : curve.feePips = pool.feePipsForDirection zeroForOne

section Built

variable {previous : Option PreparedQuoteCurve}

/-- What a builder that returns has checked and built. -/
theorem Sound.built (sound : pool.Sound)
    (built : pool.prepareQuoteCurveReusing zeroForOne kind bound previous = .ok curve) :
    bound ≠ 0 ∧ bound < 2 ^ 255 ∧ CurveOf pool zeroForOne kind curve ∧
      Tail pool zeroForOne kind bound 0 0 pool.start curve.segments := by
  simp only [prepareQuoteCurveReusing, bind_eq_ok, require_eq_ok, exists_const, pure_eq_ok] at built
  obtain ⟨positive, bounded, final, ran, rfl⟩ := built
  obtain ⟨tail, kept, path⟩ := sound.keeps_tail bounded sound.valid_start ran
  have none : clearedSegments previous = [] := by cases previous <;> rfl
  rw [none, nil_append] at kept
  exact ⟨positive, bounded, ⟨rfl, rfl⟩, kept ▸ path⟩

/-- The quote on the segment of a leg: its end, or a step on the leg. -/
theorem CurveOf.quoteSegment_eq_ok (drawn : CurveOf pool zeroForOne kind curve)
    {specifiedEnd resultEnd total result amount value : Nat} (start : total ≤ amount) :
    curve.quoteSegment (pool.legSegment zeroForOne walk specifiedEnd resultEnd) total result amount =
        .ok value ↔
      (amount = specifiedEnd ∧ value = resultEnd) ∨
      (amount ≠ specifiedEnd ∧ ∃ step, pool.kindStep zeroForOne walk kind (amount - total) = some step ∧
        result + kind.result step < 2 ^ 256 ∧ value = result + kind.result step) := by
  obtain ⟨rfl, fee⟩ := drawn
  have stepped : ∀ step output, stepResult curve.kind step = .ok output ∧
      result + output < 2 ^ 256 ∧ value = result + output ↔
      output = curve.kind.result step ∧ result + curve.kind.result step < 2 ^ 256 ∧
        value = result + curve.kind.result step := by
    intro step output
    unfold stepResult PreparedQuoteKind.result
    cases curve.kind with
    | exactInput =>
      simp only [Except.ok.injEq]
      omega
    | exactOutput =>
      simp only [orError_eq_ok, checkedAdd_eq_some]
      omega
  unfold quoteSegment legSegment
  split
  · rename_i atEnd
    simp only [Except.ok.injEq, atEnd, true_and, ne_eq, not_true_eq_false, false_and, or_false]
    exact eq_comm
  · rename_i inside
    simp only [bind_eq_ok, orError_eq_ok, checkedSub_eq_some, checkedAdd_eq_some, fee, stepped]
    constructor
    · rintro ⟨remaining, ⟨-, rfl⟩, step, computed, output, rfl, fits, rfl⟩
      exact Or.inr ⟨inside, step, computed, fits, rfl⟩
    · rintro (⟨atEnd, -⟩ | ⟨-, step, computed, fits, rfl⟩)
      · exact absurd atEnd inside
      · exact ⟨_, ⟨start, rfl⟩, step, computed, _, rfl, fits, rfl⟩

end Built

end ClmmPool

end PolyBot.Dex
