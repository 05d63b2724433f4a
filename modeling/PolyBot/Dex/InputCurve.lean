import PolyBot.Dex.Curves

/-!
# Curves of exact inputs

A prepared exact-input curve against the iterative quote.  The prefix of a path does not depend on
the amount, so a quote on the curve replays the leg on which the iterative quote ends.  The two
differ in two places only.

* `ClmmPool.input_curve_sound_iff`: every quote on the curve is the iterative quote, unless the pool
  stands at the lowest price and the tick there cannot be crossed.
* `ClmmPool.input_curve_complete_iff`: every iterative quote up to the bound is a quote on the curve,
  unless a range without liquidity ends the curve and funds lie behind it.
-/

namespace PolyBot.Dex

open SwapMath

namespace ClmmPool

variable {pool : ClmmPool} {zeroForOne : Bool} {bound total result amount value : Nat}
  {walk next : Walk} {tail : List PreparedQuoteSegment} {curve : PreparedQuoteCurve}

/-- Wherever an input ends inside the leg, the loop can end there. -/
def Unstuck (pool : ClmmPool) (zeroForOne : Bool) (walk : Walk) : Prop :=
  ∀ amount step, amount ≠ 0 → amount < 2 ^ 255 → amount < pool.legCost zeroForOne walk →
    pool.inputStep zeroForOne walk amount = some step → pool.Passes zeroForOne walk step.sqrtRatioNext

/-- Only from the lowest price, which lies below the limit, can a step that stops inside its leg meet
the boundary's price. -/
theorem Sound.unstuck (sound : pool.Sound) (valid : walk.Valid zeroForOne)
    (above : zeroForOne = true → walk.sqrtPriceX96 ≠ minSqrtRatio) :
    pool.Unstuck zeroForOne walk := by
  intro amount step _ bounded less computed reached
  obtain ⟨step', computed', part⟩ := sound.inputStep_part valid bounded less
  cases computed.symm.trans computed'
  obtain ⟨forward, short, ne, -, -⟩ := part
  rw [reached] at forward short ne
  obtain ⟨down, lowest, -⟩ := lowest_of_touch valid ⟨forward, short⟩ (Ne.symm ne)
  exact absurd lowest (above down)

theorem Sound.unstuck_beyond (sound : pool.Sound) (valid : walk.Valid zeroForOne)
    (crosses : pool.Crosses zeroForOne walk next) : pool.Unstuck zeroForOne next := by
  refine sound.unstuck (crosses.valid valid) ?_
  intro down
  have price := beyond_price valid.active crosses.beyond
  have limit : minSqrtRatio + 1 ≤ pool.target zeroForOne walk :=
    (target_bounds pool zeroForOne walk).2.2.2 down
  rw [crosses.ends, ← price] at limit
  omega

/-- A path that ends where the leg does. -/
theorem inputPath_whole (spends : Spends zeroForOne (pool.legCost zeroForOne walk) walk)
    (crossed : pool.EndsAtTick zeroForOne walk → ∃ next, pool.beyond zeroForOne walk = some next) :
    InputPath pool zeroForOne (pool.legCost zeroForOne walk) result walk
      (result + pool.legOutput zeroForOne walk) := by
  by_cases ends : pool.EndsAtTick zeroForOne walk
  · obtain ⟨next, behind⟩ := crossed ends
    refine .leg spends le_rfl ⟨ends, behind⟩ ?_
    rw [Nat.sub_self]
    exact .spent
  · exact .limit spends rfl ends

/-- A quote on the segment of a leg is what a path that ends on the leg yields. -/
theorem CurveOf.inputPath_of_segment (input : CurveOf pool zeroForOne .exactInput curve)
    {specifiedEnd resultEnd : Nat} (goes : walk.sqrtPriceX96 ≠ sqrtPriceLimitX96 zeroForOne)
    (unstuck : pool.Unstuck zeroForOne walk) (above : total < amount) (bounded : amount < 2 ^ 255)
    (inside : amount ≤ specifiedEnd) (whole : specifiedEnd ≤ total + pool.legCost zeroForOne walk)
    (atEnd : InputPath pool zeroForOne (specifiedEnd - total) result walk resultEnd)
    (quoted : curve.quoteSegment (pool.legSegment zeroForOne walk specifiedEnd resultEnd) total result amount = .ok value) :
    InputPath pool zeroForOne (amount - total) result walk value := by
  rcases (input.quoteSegment_eq_ok above.le).mp quoted with ⟨rfl, rfl⟩ | ⟨ne, step, computed, -, rfl⟩
  · exact atEnd
  · have positive : amount - total ≠ 0 := by omega
    have less : amount - total < pool.legCost zeroForOne walk := by omega
    exact .part ⟨positive, goes⟩ less computed
      (unstuck _ step positive (by omega) less computed)

/-- A quote on the segments from here on is what a path from here yields. -/
theorem Sound.inputPath_of_quote (sound : pool.Sound) (input : CurveOf pool zeroForOne .exactInput curve)
    (path : Tail pool zeroForOne .exactInput bound total result walk tail)
    (valid : walk.Valid zeroForOne) (unstuck : pool.Unstuck zeroForOne walk)
    (above : total < amount) (bounded : amount < 2 ^ 255)
    (quoted : curve.quoteFrom amount total result tail = .ok value) :
    InputPath pool zeroForOne (amount - total) result walk value := by
  induction path with
  | stop stops => cases quoted
  | @leg total result walk next tail builds covers crosses rest ih =>
    rcases Nat.lt_or_ge (total + pool.legCost zeroForOne walk) amount with behind | inside
    · have after := ih (crosses.valid valid) (sound.unstuck_beyond valid crosses) behind
        ((curve.quoteFrom_keep_behind rfl rfl (legOutput_eq_zero valid) behind).symm.trans quoted)
      refine .leg ⟨by omega, builds.goes⟩ (by omega) crosses ?_
      rw [Nat.sub_sub]
      exact after
    · have onLeg := (curve.quoteFrom_keep_inside rfl above inside).symm.trans quoted
      refine input.inputPath_of_segment builds.goes unstuck above bounded inside le_rfl ?_ onLeg
      rw [Nat.add_sub_cancel_left]
      exact inputPath_whole ⟨by omega, builds.goes⟩ fun _ => ⟨next, crosses.beyond⟩
  | @limit total result walk builds covers elsewhere =>
    rcases Nat.lt_or_ge (total + pool.legCost zeroForOne walk) amount with behind | inside
    · have none := (curve.quoteFrom_keep_behind rfl rfl (legOutput_eq_zero valid) behind).symm.trans
        quoted
      cases none
    · have onLeg := (curve.quoteFrom_keep_inside rfl above inside).symm.trans quoted
      refine input.inputPath_of_segment builds.goes unstuck above bounded inside le_rfl ?_ onLeg
      rw [Nat.add_sub_cancel_left]
      exact inputPath_whole ⟨by omega, builds.goes⟩ fun ends => absurd ends elsewhere
  | @part total result walk step builds less computed passes =>
    rw [PreparedQuoteCurve.quoteFrom] at quoted
    split at quoted
    · cases quoted
    · rename_i within
      have below := builds.below
      replace less : bound < total + pool.legCost zeroForOne walk := less
      refine input.inputPath_of_segment builds.goes unstuck above bounded (Nat.not_lt.mp within)
        less.le ?_ quoted
      show InputPath pool zeroForOne (bound - total) result walk (result + step.amountOut)
      exact .part ⟨by omega, builds.goes⟩ (by omega) computed passes

/-! ## The lowest price -/

/-- The negated net liquidity of a tick can be added to an active liquidity. -/
def CrossableDown (liquidity : Nat) (net : Int) : Prop :=
  (-2 ^ 127 ≤ -net ∧ -net < 2 ^ 127) ∧ net ≤ liquidity ∧ liquidity - net < 2 ^ 128

/-- The pool stands at the lowest price, below the limit of a sale of the first token, at an
initialized tick that cannot be crossed, and even one unit can be sold there in part. -/
structure StuckAtMinimum (pool : ClmmPool) (zeroForOne : Bool) : Prop where
  down : zeroForOne = true
  price : pool.sqrtPriceX96 = minSqrtRatio
  boundary : (pool.boundaryAt true pool.tick).sqrtPriceNextX96 = minSqrtRatio
  initialized : (pool.boundaryAt true pool.tick).initialized = true
  blocked : ∀ state, pool.ticks[(pool.boundaryAt true pool.tick).tickNext]? = some state →
    ¬ CrossableDown pool.liquidity state.net
  funded : pool.liquidity ≠ 0
  charged : pool.feePips ≠ 0 ∨ 2 ^ 96 < pool.liquidity

theorem addDelta_neg_eq_ok {liquidity : Nat} {net : Int} (fits : liquidity < 2 ^ 128) :
    (∃ active, uniswapV3Math.addDelta liquidity (-net) = .ok active) ↔
      net ≤ liquidity ∧ liquidity - net < 2 ^ 128 := by
  simp only [uniswapV3Math]
  split
  · simp only [orError_eq_ok, checkedSub_eq_some, exists_and_left, exists_eq, and_true]
    omega
  · simp only [orError_eq_ok, checkedAdd_eq_some, exists_and_left, exists_eq, and_true]
    omega

/-- Going down, an initialized tick is crossed exactly where its net liquidity can be taken out. -/
theorem beyond_down_iff {walk : Walk} {state : TickLiquidity} (active : walk.liquidity < 2 ^ 128)
    (initialized : (pool.boundaryAt true walk.tick).initialized = true)
    (held : pool.ticks[(pool.boundaryAt true walk.tick).tickNext]? = some state) :
    (∃ next, pool.beyond true walk = some next) ↔ CrossableDown walk.liquidity state.net := by
  have negated : (∃ net, netInDirection true state.net = .ok net ∧
      ∃ liquidity, uniswapV3Math.addDelta walk.liquidity net = .ok liquidity) ↔
      CrossableDown walk.liquidity state.net := by
    unfold CrossableDown
    rw [← addDelta_neg_eq_ok active]
    simp only [netInDirection, if_true, orError_eq_ok, checkedInt_eq_some]
    constructor
    · rintro ⟨net, ⟨range, rfl⟩, added⟩
      exact ⟨range, added⟩
    · rintro ⟨range, added⟩
      exact ⟨_, ⟨range, rfl⟩, added⟩
  rw [← negated]
  constructor
  · rintro ⟨next, crossed⟩
    have ran := behind_of_beyond crossed
    simp only [behind, cross, liquidityAcross, initialized, if_true, liquidityBehind, held, orError,
      ok_bind, bind_eq_ok, mapError_eq_ok] at ran
    obtain ⟨liquidity, ⟨net, inDirection, added⟩, -⟩ := ran
    exact ⟨net, inDirection, liquidity, added⟩
  · rintro ⟨net, inDirection, liquidity, added⟩
    have ran : pool.behind true "" walk =
        .ok ⟨(pool.boundaryAt true walk.tick).sqrtPriceNextX96,
          (pool.boundaryAt true walk.tick).tickNext - 1, liquidity⟩ := by
      simp only [behind, cross, liquidityAcross, initialized, if_true, liquidityBehind, held,
        orError, ok_bind, inDirection, added, Except.mapError]
      rfl
    exact ⟨_, beyond_eq_some.mpr ran⟩

/-- The leg from the lowest price goes up to the limit. -/
theorem target_at_minimum
    (boundary : (pool.boundaryAt true pool.tick).sqrtPriceNextX96 = minSqrtRatio) :
    pool.target true pool.start = minSqrtRatio + 1 := by
  rw [target_eq]
  show max (pool.boundaryAt true pool.tick).sqrtPriceNextX96 (minSqrtRatio + 1) = minSqrtRatio + 1
  rw [boundary]
  exact max_eq_right (Nat.le_succ _)

/-- From the lowest price to the limit is one unit of price: what it costs more than one unit of input. -/
theorem one_lt_legCost_iff (price : pool.sqrtPriceX96 = minSqrtRatio)
    (boundary : (pool.boundaryAt true pool.tick).sqrtPriceNextX96 = minSqrtRatio)
    (fee_lt : pool.feePips < 1000000) :
    1 < pool.legCost true pool.start ↔
      pool.liquidity ≠ 0 ∧ (pool.feePips ≠ 0 ∨ 2 ^ 96 < pool.liquidity) := by
  have target := target_at_minimum boundary
  have input : fullInput pool.sqrtPriceX96 (minSqrtRatio + 1) pool.liquidity =
      divRoundingUp pool.liquidity (2 ^ 96) := by
    have up : direction minSqrtRatio (minSqrtRatio + 1) = false := by decide
    rw [price, fullInput, up, amountIn, if_neg Bool.false_ne_true, Nat.add_sub_cancel_left, Nat.mul_one]
  unfold legCost fullCost
  rw [target]
  show 1 < fullInput pool.sqrtPriceX96 (minSqrtRatio + 1) pool.liquidity +
    feeOn (fullInput pool.sqrtPriceX96 (minSqrtRatio + 1) pool.liquidity) pool.feePips ↔ _
  rw [input]
  have some : 0 < divRoundingUp pool.liquidity (2 ^ 96) ↔ pool.liquidity ≠ 0 := by
    rw [lt_divRoundingUp_iff (by positivity)]
    omega
  have more : 1 < divRoundingUp pool.liquidity (2 ^ 96) ↔ 2 ^ 96 < pool.liquidity := by
    rw [lt_divRoundingUp_iff (by positivity), Nat.one_mul]
  generalize divRoundingUp pool.liquidity (2 ^ 96) = units at some more ⊢
  have charged : 0 < feeOn units pool.feePips ↔ units ≠ 0 ∧ pool.feePips ≠ 0 := by
    rw [feeOn, lt_divRoundingUp_iff (by omega), Nat.zero_mul, Nat.pos_iff_ne_zero, Nat.mul_ne_zero_iff]
  rw [← some, ← more]
  omega

/-- The condition in terms of the path. -/
theorem Sound.stuckAtMinimum_iff (sound : pool.Sound) {zeroForOne : Bool} :
    pool.StuckAtMinimum zeroForOne ↔ zeroForOne = true ∧ pool.sqrtPriceX96 = minSqrtRatio ∧
      (pool.boundaryAt true pool.tick).sqrtPriceNextX96 = minSqrtRatio ∧
      pool.beyond true pool.start = none ∧ 1 < pool.legCost true pool.start := by
  have crossing : ∀ state, (pool.boundaryAt true pool.tick).initialized = true →
      pool.ticks[(pool.boundaryAt true pool.tick).tickNext]? = some state →
      ((∃ next, pool.beyond true pool.start = some next) ↔
        CrossableDown pool.liquidity state.net) := by
    intro state initialized held
    have active : pool.start.liquidity < 2 ^ 128 := sound.active
    exact beyond_down_iff active initialized held
  constructor
  · rintro ⟨down, price, boundary, initialized, blocked, funded, charged⟩
    refine ⟨down, price, boundary, ?_,
      (one_lt_legCost_iff price boundary sound.fees.1).mpr ⟨funded, charged⟩⟩
    have mem : (pool.boundaryAt true pool.tick).tickNext ∈ pool.ticks :=
      sound.initialized_mem initialized
    obtain ⟨state, held⟩ := Option.isSome_iff_exists.mp
      (Std.TreeMap.mem_iff_isSome_getElem?.mp mem)
    rcases behind : pool.beyond true pool.start with _ | next
    · rfl
    · exact absurd ((crossing state initialized held).mp ⟨next, behind⟩) (blocked state held)
  · rintro ⟨down, price, boundary, behind, costly⟩
    obtain ⟨funded, charged⟩ := (one_lt_legCost_iff price boundary sound.fees.1).mp costly
    have initialized : (pool.boundaryAt true pool.tick).initialized = true := by
      by_contra unset
      have ran : pool.behind true "" pool.start = .ok
          ⟨(pool.boundaryAt true pool.tick).sqrtPriceNextX96,
            (pool.boundaryAt true pool.tick).tickNext - 1, pool.liquidity⟩ := by
        show (pool.liquidityAcross true "" pool.liquidity (pool.boundaryAt true pool.tick) >>= _) = _
        rw [liquidityAcross, if_neg unset]
        rfl
      rw [beyond_eq_some.mpr ran] at behind
      cases behind
    refine ⟨down, price, boundary, initialized, ?_, funded, charged⟩
    intro state held crossable
    obtain ⟨next, some⟩ := (crossing state initialized held).mpr crossable
    rw [some] at behind
    cases behind

/-- What is sold in part at the lowest price does not move it. -/
theorem Sound.stays_at_minimum (sound : pool.Sound) (price : pool.sqrtPriceX96 = minSqrtRatio)
    (boundary : (pool.boundaryAt true pool.tick).sqrtPriceNextX96 = minSqrtRatio) {amount : Nat}
    (bounded : amount < 2 ^ 255) (less : amount < pool.legCost true pool.start) :
    ∃ step, pool.inputStep true pool.start amount = some step ∧ step.amountOut < 2 ^ 225 ∧
      step.sqrtRatioNext = minSqrtRatio := by
  obtain ⟨step, computed, part⟩ := sound.inputStep_part sound.valid_start bounded less
  have start : pool.start.sqrtPriceX96 = minSqrtRatio := price
  rw [start, target_at_minimum boundary] at part
  exact ⟨step, computed, part.output_lt, part.stays⟩

/-! ## The curve against the iterative quote -/

section Curves

variable {previous : Option PreparedQuoteCurve}

/-- At the lowest price, what stops inside its leg can end there unless the pool is stuck. -/
theorem Sound.unstuck_of_not_stuck (sound : pool.Sound) (price : pool.sqrtPriceX96 = minSqrtRatio)
    (free : ¬ pool.StuckAtMinimum true) : pool.Unstuck true pool.start := by
  intro amount step nonzero small less computed reached
  rcases behind : pool.beyond true pool.start with _ | next
  · exfalso
    obtain ⟨step', computed', part⟩ := sound.inputStep_part sound.valid_start small less
    cases computed.symm.trans computed'
    have boundary : (pool.boundaryAt true pool.tick).sqrtPriceNextX96 = minSqrtRatio := by
      have low := (boundaryAt_bounds pool true pool.tick).1
      have ne := part.ne
      rw [reached, target_eq] at ne
      replace ne : (pool.boundaryAt true pool.tick).sqrtPriceNextX96 ≠
        max (pool.boundaryAt true pool.tick).sqrtPriceNextX96 (minSqrtRatio + 1) := ne
      omega
    exact free (sound.stuckAtMinimum_iff.mpr ⟨rfl, price, boundary, behind, by omega⟩)
  · exact ⟨next, rfl⟩

/-- At the lowest price, a pool that is stuck there has a quote of one unit on its curve. -/
theorem Sound.quote_one_of_stuck (sound : pool.Sound) (input : CurveOf pool true .exactInput curve)
    (path : Tail pool true .exactInput bound 0 0 pool.start curve.segments) (positive : bound ≠ 0)
    (bounded : bound < 2 ^ 255) (stuck : pool.StuckAtMinimum true) :
    ∃ value, curve.quote 1 = .ok value := by
  obtain ⟨-, price, boundary, blocked, costly⟩ := sound.stuckAtMinimum_iff.mp stuck
  have builds : Builds true bound 0 pool.start := by
    refine ⟨Nat.pos_of_ne_zero positive, ?_, stuck.funded⟩
    show pool.sqrtPriceX96 ≠ minSqrtRatio + 1
    omega
  obtain ⟨step, computed, small, stays⟩ := sound.stays_at_minimum price boundary (by norm_num) costly
  -- the first segment ends beyond one unit, so the quote is a step on it
  have onFirst : ∀ specifiedEnd resultEnd, 1 < specifiedEnd →
      curve.segments = [pool.legSegment true pool.start specifiedEnd resultEnd] →
      ∃ value, curve.quote 1 = .ok value := by
    intro specifiedEnd resultEnd beyond first
    refine ⟨0 + step.amountOut, ?_⟩
    rw [curve.quote_eq one_ne_zero (by norm_num), first, curve.quoteFrom_last beyond.le,
      input.quoteSegment_eq_ok (Nat.zero_le 1)]
    have fits : 0 + step.amountOut < 2 ^ 256 := by omega
    exact Or.inr ⟨by omega, step, computed, fits, rfl⟩
  generalize segments_eq : curve.segments = segments at path onFirst
  cases path with
  | stop stops => exact absurd builds stops
  | leg _ _ crosses =>
    have target := (target_bounds pool true pool.start).2.2.2 rfl
    rw [crosses.ends] at target
    replace target : minSqrtRatio + 1 ≤ (pool.boundaryAt true pool.tick).sqrtPriceNextX96 := target
    omega
  | limit =>
    apply onFirst (0 + pool.legCost true pool.start) _ (by omega)
    have costs : pool.legCost true pool.start ≠ 0 := by omega
    exact if_pos costs
  | @part _ _ _ step' _ less computed' passes =>
    apply onFirst bound _ _ rfl
    by_contra atMost
    have one : bound - 0 = 1 := by omega
    rw [one] at computed'
    cases computed.symm.trans computed'
    obtain ⟨next, crossed⟩ := passes (stays.trans boundary.symm)
    rw [blocked] at crossed
    cases crossed

/-- A quote on a prepared exact-input curve, fresh or with the allocation of a previous one, is the
iterative quote, and nothing is quoted above the capacity, exactly if the pool is not stuck at the
lowest price. -/
theorem input_curve_sound_iff (sound : pool.Sound)
    (built : pool.prepareQuoteCurveReusing zeroForOne .exactInput bound previous = .ok curve) :
    ((∀ amount value, 0 < amount → curve.quote amount = .ok value →
        pool.quoteExactInAmountOut zeroForOne amount = .ok value) ∧
      ∀ amount, curve.specifiedCapacity < amount → ∃ e, curve.quote amount = .error e) ↔
      ¬ pool.StuckAtMinimum zeroForOne := by
  obtain ⟨positive, bounded, input, path⟩ := sound.built built
  constructor
  · rintro ⟨agrees, -⟩ stuck
    cases stuck.down
    obtain ⟨value, quoted⟩ := sound.quote_one_of_stuck input path positive bounded stuck
    have iterated := agrees 1 value Nat.one_pos quoted
    rw [sound.quoteExactInAmountOut_iff one_ne_zero (by norm_num)] at iterated
    obtain ⟨-, price, boundary, blocked, costly⟩ := sound.stuckAtMinimum_iff.mp stuck
    obtain ⟨step, computed, -, stays⟩ :=
      sound.stays_at_minimum price boundary (by norm_num) costly
    have goes : pool.start.sqrtPriceX96 ≠ sqrtPriceLimitX96 true := by
      show pool.sqrtPriceX96 ≠ minSqrtRatio + 1
      omega
    obtain ⟨passes, -⟩ := (inputPath_part_iff ⟨one_ne_zero, goes⟩ costly computed).mp iterated
    obtain ⟨next, crossed⟩ := passes (stays.trans boundary.symm)
    rw [blocked] at crossed
    cases crossed
  · intro free
    refine ⟨?_, fun amount above => path.quote_above_capacity above⟩
    intro amount value some quoted
    obtain ⟨nonzero, small, quoted⟩ := PreparedQuoteCurve.quote_eq_ok quoted
    rw [sound.quoteExactInAmountOut_iff nonzero small]
    have unstuck : pool.Unstuck zeroForOne pool.start := by
      by_cases lowest : zeroForOne = true ∧ pool.sqrtPriceX96 = minSqrtRatio
      · obtain ⟨rfl, price⟩ := lowest
        exact sound.unstuck_of_not_stuck price free
      · exact sound.unstuck sound.valid_start fun down price => lowest ⟨down, price⟩
    exact sound.inputPath_of_quote input path sound.valid_start unstuck some small quoted

end Curves

/-- A pool with one range over all prices. -/
def wholeRange : ClmmPool :=
  fresh 3000 60 (2 ^ 96 + 10 ^ 26) 25 (10 ^ 18)

theorem wholeRange_reachable : wholeRange.Reachable :=
  .fresh (by norm_num) rfl

/-- Its curve of up to a thousand units, which ends inside the first leg. -/
def wholeRangeCurve : PreparedQuoteCurve :=
  ⟨.exactInput, 3000, [⟨1000, 999, 2 ^ 96 + 10 ^ 26, 2 ^ 96, 10 ^ 18⟩]⟩

theorem wholeRange_built :
    wholeRange.prepareExactInputCurveBounded true 1000 = .ok wholeRangeCurve := by
  decide +kernel

theorem quote_of_whole_range_is_iterative :
    wholeRangeCurve.quote 500 = .ok 499 ∧ wholeRange.quoteExactInAmountOut true 500 = .ok 499 := by
  have quoted : wholeRangeCurve.quote 500 = .ok 499 := by decide +kernel
  have elsewhere : ¬ wholeRange.StuckAtMinimum true := by
    intro stuck
    exact absurd stuck.price (by decide)
  obtain ⟨agrees, -⟩ :=
    (input_curve_sound_iff wholeRange_reachable.sound wholeRange_built).mpr elsewhere
  exact ⟨quoted, agrees 500 499 (by norm_num) quoted⟩

/-- A pool at the lowest price with a unit of liquidity, and a tick there that takes two out. -/
def stuckPool : ClmmPool :=
  (fresh 3000 8 minSqrtRatio minTick 1).after (.setTick minTick 2 2)

theorem stuckPool_reachable : stuckPool.Reachable :=
  .after (.fresh (by norm_num) rfl) trivial

/-- Its curve, which ends at the limit. -/
def stuckCurve : PreparedQuoteCurve :=
  ⟨.exactInput, 3000, [⟨2, 4294644427, minSqrtRatio, minSqrtRatio + 1, 1⟩]⟩

/-- One unit is quoted on the curve, while the iterative quote fails at the tick. -/
theorem stuck_pool_quotes_on_its_curve_only :
    stuckPool.Reachable ∧ stuckPool.Coherent ∧
      stuckPool.prepareExactInputCurveBounded true 1000 = .ok stuckCurve ∧
      stuckCurve.quote 1 = .ok 0 ∧
      stuckPool.quoteExactInAmountOut true 1 =
        .error (.rejected "failed to cross initialized tick") :=
  ⟨stuckPool_reachable, by decide +kernel, by decide +kernel, by decide +kernel, by decide +kernel⟩

/-! ## Ranges without liquidity -/

/-- Going on over legs that cost nothing leads to one that takes input. -/
inductive FundsAhead (pool : ClmmPool) (zeroForOne : Bool) : Walk → Prop
  | here {walk : Walk} (goes : walk.sqrtPriceX96 ≠ sqrtPriceLimitX96 zeroForOne)
      (costs : pool.legCost zeroForOne walk ≠ 0)
      (usable : 1 < pool.legCost zeroForOne walk ∨
        (pool.EndsAtTick zeroForOne walk → ∃ next, pool.beyond zeroForOne walk = some next)) :
      FundsAhead pool zeroForOne walk
  | later {walk next : Walk} (goes : walk.sqrtPriceX96 ≠ sqrtPriceLimitX96 zeroForOne)
      (free : pool.legCost zeroForOne walk = 0) (crosses : pool.Crosses zeroForOne walk next)
      (rest : FundsAhead pool zeroForOne next) : FundsAhead pool zeroForOne walk

/-- Below the bound, the legs of the traversal lead to a range without liquidity, with funds behind
it. -/
inductive GapBelow (pool : ClmmPool) (zeroForOne : Bool) (bound : Nat) : Nat → Walk → Prop
  | gap {total : Nat} {walk : Walk} (below : total < bound)
      (goes : walk.sqrtPriceX96 ≠ sqrtPriceLimitX96 zeroForOne) (empty : walk.liquidity = 0)
      (funds : FundsAhead pool zeroForOne walk) : GapBelow pool zeroForOne bound total walk
  | leg {total : Nat} {walk next : Walk} (builds : Builds zeroForOne bound total walk)
      (covers : total + pool.legCost zeroForOne walk ≤ bound)
      (crosses : pool.Crosses zeroForOne walk next)
      (rest : GapBelow pool zeroForOne bound (total + pool.legCost zeroForOne walk) next) :
      GapBelow pool zeroForOne bound total walk

/-- Where funds lie ahead, one unit can be quoted. -/
theorem Sound.quote_one_of_funds (sound : pool.Sound) (funds : FundsAhead pool zeroForOne walk)
    (valid : walk.Valid zeroForOne) (unstuck : pool.Unstuck zeroForOne walk) (result : Nat) :
    ∃ value, InputPath pool zeroForOne 1 result walk value := by
  induction funds generalizing result with
  | @here walk goes costs usable =>
    by_cases more : 1 < pool.legCost zeroForOne walk
    · obtain ⟨step, computed, part⟩ := sound.inputStep_part valid (by norm_num) more
      exact ⟨_, .part ⟨one_ne_zero, goes⟩ more computed
        (unstuck 1 step one_ne_zero (by norm_num) more computed)⟩
    · have one : pool.legCost zeroForOne walk = 1 := by omega
      have whole : InputPath pool zeroForOne (pool.legCost zeroForOne walk) result walk _ :=
        inputPath_whole ⟨costs, goes⟩ (usable.resolve_left more)
      rw [one] at whole
      exact ⟨_, whole⟩
  | @later walk next goes free crosses rest ih =>
    obtain ⟨value, path⟩ := ih (crosses.valid valid) (sound.unstuck_beyond valid crosses)
      (result + pool.legOutput zeroForOne walk)
    refine ⟨value, .leg ⟨one_ne_zero, goes⟩ (by omega) crosses ?_⟩
    rw [free]
    exact path

/-- A quote of something needs funds. -/
theorem InputPath.funds (path : InputPath pool zeroForOne amount result walk value)
    (positive : amount ≠ 0) : FundsAhead pool zeroForOne walk := by
  induction path with
  | spent => exact absurd rfl positive
  | @leg remaining out result walk next spends covers crosses rest ih =>
    by_cases free : pool.legCost zeroForOne walk = 0
    · exact .later spends.goes free crosses (ih (by omega))
    · exact .here spends.goes free (Or.inr fun _ => ⟨next, crosses.beyond⟩)
  | limit spends covers elsewhere =>
    exact .here spends.goes (by omega) (Or.inr fun ends => absurd ends elsewhere)
  | part spends less computed passes => exact .here spends.goes (by omega) (Or.inl (by omega))

theorem legCost_of_empty (empty : walk.liquidity = 0) : pool.legCost zeroForOne walk = 0 := by
  have input : fullInput walk.sqrtPriceX96 (pool.target zeroForOne walk) 0 = 0 := by
    unfold fullInput amountIn
    split <;> simp [divRoundingUp]
  rw [legCost, fullCost, empty, input, feeOn, Nat.zero_mul]
  simp [divRoundingUp]

/-- Behind the gap lies an amount within the bound that the iterative quote has and the curve does
not. -/
theorem Sound.lost_behind_gap (sound : pool.Sound)
    (gap : GapBelow pool zeroForOne bound total walk) (valid : walk.Valid zeroForOne)
    (path : Tail pool zeroForOne .exactInput bound total result walk tail)
    (curve : PreparedQuoteCurve) :
    ∃ amount value, total < amount ∧ amount ≤ bound ∧
      InputPath pool zeroForOne (amount - total) result walk value ∧
      curve.quoteFrom amount total result tail = .error .insufficientLiquidity := by
  induction gap generalizing result tail with
  | @gap total walk below goes empty funds =>
    have free : pool.legCost zeroForOne walk = 0 := legCost_of_empty empty
    have unstuck : pool.Unstuck zeroForOne walk := by
      intro amount step _ _ less
      omega
    obtain ⟨value, quoted⟩ := sound.quote_one_of_funds funds valid unstuck result
    refine ⟨total + 1, value, by omega, below, ?_, ?_⟩
    · rw [Nat.add_sub_cancel_left]
      exact quoted
    · rw [path.stop_inv fun builds => builds.funded empty]
      rfl
  | @leg total walk next builds covers crosses rest ih =>
    obtain ⟨next', tail, crosses', rfl, path⟩ := path.leg_inv builds covers crosses.ends
    cases crosses.beyond.symm.trans crosses'.beyond
    obtain ⟨amount, value, above, within, quoted, lost⟩ := ih (crosses.valid valid) path
    refine ⟨amount, value, by omega, within, ?_, ?_⟩
    · refine .leg ⟨by omega, builds.goes⟩ (by omega) crosses ?_
      rw [Nat.sub_sub]
      exact quoted
    · rw [← lost]
      exact curve.quoteFrom_keep_behind rfl rfl (legOutput_eq_zero valid) above

/-- The segment of a leg quotes every amount that ends inside it. -/
theorem Sound.quoteSegment_of_part (sound : pool.Sound) (input : CurveOf pool zeroForOne .exactInput curve)
    (valid : walk.Valid zeroForOne) (roomy : Roomy zeroForOne walk result)
    {specifiedEnd resultEnd : Nat} (above : total < amount) (bounded : amount < 2 ^ 255)
    (inside : amount ≤ specifiedEnd) (whole : specifiedEnd ≤ total + pool.legCost zeroForOne walk) :
    ∃ value, curve.quoteSegment (pool.legSegment zeroForOne walk specifiedEnd resultEnd) total result amount = .ok value := by
  by_cases atEnd : amount = specifiedEnd
  · exact ⟨resultEnd, (input.quoteSegment_eq_ok above.le).mpr (Or.inl ⟨atEnd, rfl⟩)⟩
  · have less : amount - total < pool.legCost zeroForOne walk := by omega
    obtain ⟨step, computed, part⟩ := sound.inputStep_part valid (by omega) less
    exact ⟨result + step.amountOut, (input.quoteSegment_eq_ok above.le).mpr
      (Or.inr ⟨atEnd, step, computed, roomy.lt part.output_lt, rfl⟩)⟩

/-- Without a gap, what a path yields within the bound is quoted by the segments from here on. -/
theorem Sound.quoted_of_no_gap (sound : pool.Sound) (input : CurveOf pool zeroForOne .exactInput curve)
    (path : Tail pool zeroForOne .exactInput bound total result walk tail)
    (noGap : ¬ GapBelow pool zeroForOne bound total walk) (valid : walk.Valid zeroForOne)
    (roomy : Roomy zeroForOne walk result) (above : total < amount) (within : amount ≤ bound)
    (bounded : amount < 2 ^ 255)
    (iterated : InputPath pool zeroForOne (amount - total) result walk value) :
    ∃ quoted, curve.quoteFrom amount total result tail = .ok quoted := by
  induction path generalizing value with
  | @stop total result walk stops =>
    have positive : amount - total ≠ 0 := by omega
    exfalso
    by_cases atLimit : walk.sqrtPriceX96 = sqrtPriceLimitX96 zeroForOne
    · exact not_inputPath_of_limit positive atLimit iterated
    · have empty : walk.liquidity = 0 := by
        by_contra funded
        exact stops ⟨by omega, atLimit, funded⟩
      exact noGap (.gap (by omega) atLimit empty (iterated.funds positive))
  | @leg total result walk next tail builds covers crosses rest ih =>
    rcases Nat.lt_or_ge (total + pool.legCost zeroForOne walk) amount with behind | inside
    · obtain ⟨next', crossed, iterated⟩ :=
        (inputPath_leg_iff ⟨by omega, builds.goes⟩ (by omega) crosses.ends).mp iterated
      cases crosses.beyond.symm.trans crossed
      rw [Nat.sub_sub] at iterated
      have small : pool.legOutput zeroForOne walk < 2 ^ 225 := fullOutput_lt (valid.priced pool)
      obtain ⟨quoted, found⟩ := ih (fun gap => noGap (.leg builds covers crosses gap))
        (crosses.valid valid) (roomy.beyond sound valid small crosses) behind iterated
      refine ⟨quoted, ?_⟩
      rw [← found]
      exact curve.quoteFrom_keep_behind rfl rfl (legOutput_eq_zero valid) behind
    · obtain ⟨quoted, found⟩ := sound.quoteSegment_of_part input valid roomy above bounded inside
        le_rfl
      exact ⟨quoted, (curve.quoteFrom_keep_inside rfl above inside).trans found⟩
  | @limit total result walk builds covers elsewhere =>
    rcases Nat.lt_or_ge (total + pool.legCost zeroForOne walk) amount with behind | inside
    · obtain ⟨same, -⟩ := (inputPath_limit_iff ⟨by omega, builds.goes⟩ (by omega) elsewhere).mp
        iterated
      omega
    · obtain ⟨quoted, found⟩ := sound.quoteSegment_of_part input valid roomy above bounded inside
        le_rfl
      exact ⟨quoted, (curve.quoteFrom_keep_inside rfl above inside).trans found⟩
  | @part total result walk step builds less computed passes =>
    obtain ⟨quoted, found⟩ := sound.quoteSegment_of_part input valid roomy above bounded within
      less.le
    exact ⟨quoted, (curve.quoteFrom_last within).trans found⟩

/-- Every iterative quote up to the bound is also quoted by the curve, exactly if no range without
liquidity ends the curve in front of more funds. -/
theorem input_curve_complete_iff (sound : pool.Sound) {previous : Option PreparedQuoteCurve}
    (built : pool.prepareQuoteCurveReusing zeroForOne .exactInput bound previous = .ok curve) :
    (∀ amount value, 0 < amount → amount ≤ bound →
        pool.quoteExactInAmountOut zeroForOne amount = .ok value →
        ∃ quoted, curve.quote amount = .ok quoted) ↔
      ¬ GapBelow pool zeroForOne bound 0 pool.start := by
  obtain ⟨-, bounded, input, path⟩ := sound.built built
  have valid : pool.start.Valid zeroForOne := sound.valid_start
  constructor
  · intro complete gap
    obtain ⟨amount, value, above, within, iterated, lost⟩ :=
      sound.lost_behind_gap gap valid path curve
    have small : amount < 2 ^ 255 := by omega
    obtain ⟨quoted, found⟩ := complete amount value above within
      ((sound.quoteExactInAmountOut_iff above.ne' small).mpr iterated)
    rw [curve.quote_eq above.ne' small, lost] at found
    cases found
  · intro noGap amount value above within iterated
    have small : amount < 2 ^ 255 := by omega
    rw [curve.quote_eq above.ne' small]
    exact sound.quoted_of_no_gap input path noGap valid sound.roomy_start above within small
      ((sound.quoteExactInAmountOut_iff above.ne' small).mp iterated)

theorem whole_range_quotes_at_its_bound :
    wholeRange.quoteExactInAmountOut true 1000 = .ok 999 ∧
      ∃ quoted, wholeRangeCurve.quote 1000 = .ok quoted := by
  have iterated : wholeRange.quoteExactInAmountOut true 1000 = .ok 999 := by decide +kernel
  have long : ¬ 0 + wholeRange.legCost true wholeRange.start ≤ 1000 := by decide +kernel
  have noGap : ¬ GapBelow wholeRange true 1000 0 wholeRange.start := by
    intro gap
    cases gap with
    | gap _ _ empty => exact absurd empty (by decide)
    | leg _ covers => exact long covers
  have complete := (input_curve_complete_iff wholeRange_reachable.sound wholeRange_built).mpr noGap
  exact ⟨iterated, complete 1000 999 (by norm_num) le_rfl iterated⟩

/-- A pool with funds above the zeroth tick and between the ticks -120 and -60, and none between. -/
def gapPool : ClmmPool :=
  ((wholeRange.after (.setTick 0 (10 ^ 18) (10 ^ 18))).after
    (.setTick (-60) (10 ^ 18) (-10 ^ 18))).after (.setTick (-120) (10 ^ 18) (10 ^ 18))

theorem gapPool_reachable : gapPool.Reachable :=
  .after (.after (.after wholeRange_reachable trivial) trivial) trivial

/-- Its curve, which ends at the zeroth tick. -/
def gapCurve : PreparedQuoteCurve :=
  ⟨.exactInput, 3000, [⟨1264379503181974, 1262177448353618, 2 ^ 96 + 10 ^ 26, 2 ^ 96, 10 ^ 18⟩]⟩

/-- An amount within the bound that both ranges together can take is quoted by the loop only. -/
theorem curve_ends_at_the_gap :
    gapPool.Reachable ∧ gapPool.Coherent ∧
      gapPool.prepareExactInputCurveBounded true (10 ^ 16) = .ok gapCurve ∧
      gapCurve.quote (2 * 10 ^ 15) = .error .insufficientLiquidity ∧
      gapPool.quoteExactInAmountOut true (2 * 10 ^ 15) = .ok 1990671308694454 :=
  ⟨gapPool_reachable, by decide +kernel, by decide +kernel, by decide +kernel, by decide +kernel⟩

end ClmmPool

end PolyBot.Dex
