import PolyBot.Lib.TickOrder
import PolyBot.Lib.SwapReach
import PolyBot.Dex.Backing

/-!
# The state after a quote

The quote of an exact input also returns where it ends.  Behind a boundary that it reached, the tick
is read off the boundary, and one price belongs to two ticks there; after a partial step the tick is
computed from the price.  The second way forgets on which side of a tick the traversal stands: a
remainder that is too small to move the price, spent directly below a tick that has been crossed,
ends at the price of that tick, with the tick itself and the liquidity below it.

* `AfterPath`: the paths of the quote, with where they end.
* `EndsMisplaced`: the amounts that end on the wrong side.
* `quoteExactIn_coherent_iff`: all others end in a coherent state.
-/

namespace PolyBot.Dex

open SwapMath TickMath

/-- The price lies between that of the tick and that of the next one, both included. -/
def Walk.Placed (walk : Walk) : Prop :=
  (getSqrtRatioAtTick walk.tick).any (· ≤ walk.sqrtPriceX96) = true ∧
    (getSqrtRatioAtTick (walk.tick + 1)).all (walk.sqrtPriceX96 ≤ ·) = true

/-- Price, tick and liquidity belong together over the ticks of the pool. -/
def Walk.Coherent (pool : ClmmPool) (walk : Walk) : Prop :=
  walk.Placed ∧ walk.Backed pool

instance (pool : ClmmPool) (walk : Walk) : Decidable (walk.Coherent pool) :=
  inferInstanceAs (Decidable ((_ ∧ _) ∧ (_ : Int) = _))

theorem Walk.placed_iff {walk : Walk} : walk.Placed ↔
    (∃ ratio, getSqrtRatioAtTick walk.tick = some ratio ∧ ratio ≤ walk.sqrtPriceX96) ∧
      ∀ ratio, getSqrtRatioAtTick (walk.tick + 1) = some ratio →
        walk.sqrtPriceX96 ≤ ratio := by
  unfold Placed
  cases getSqrtRatioAtTick walk.tick <;>
    cases getSqrtRatioAtTick (walk.tick + 1) <;> simp

/-- Where a quote ends. -/
def LocalQuote.after (quote : LocalQuote) : Walk :=
  ⟨quote.sqrtPriceAfterX96, quote.tickAfter, quote.liquidityAfter⟩

namespace ClmmPool

/-! ## Paths -/

/-- The step of an input that the leg does not take whole stops inside it, at a price of this
tick. -/
structure StopsInside (pool : ClmmPool) (zeroForOne : Bool) (walk : Walk) (remaining : Nat)
    (step : SwapStep) (tick : Int) : Prop where
  less : remaining < pool.legCost zeroForOne walk
  computed : pool.inputStep zeroForOne walk remaining = some step
  inside : step.sqrtRatioNext ≠ (pool.boundaryAt zeroForOne walk.tick).sqrtPriceNextX96
  found : getTickAtSqrtRatio step.sqrtRatioNext = some tick

/-- The paths of the quote of an exact input, with where they end. -/
inductive AfterPath (pool : ClmmPool) (zeroForOne : Bool) : Nat → Walk → Walk → Prop
  | spent {walk : Walk} : AfterPath pool zeroForOne 0 walk walk
  | leg {remaining : Nat} {walk next final : Walk} (spends : Spends zeroForOne remaining walk)
      (covers : pool.legCost zeroForOne walk ≤ remaining)
      (crosses : pool.Crosses zeroForOne walk next)
      (rest : AfterPath pool zeroForOne (remaining - pool.legCost zeroForOne walk) next final) :
      AfterPath pool zeroForOne remaining walk final
  | limit {remaining : Nat} {walk : Walk} {tick : Int} (spends : Spends zeroForOne remaining walk)
      (covers : pool.legCost zeroForOne walk ≤ remaining)
      (elsewhere : ¬ pool.EndsAtTick zeroForOne walk)
      (found : getTickAtSqrtRatio (pool.target zeroForOne walk) = some tick) :
      AfterPath pool zeroForOne remaining walk
        ⟨pool.target zeroForOne walk, tick, walk.liquidity⟩
  | part {remaining : Nat} {walk : Walk} {step : SwapStep} {tick : Int}
      (spends : Spends zeroForOne remaining walk)
      (stops : pool.StopsInside zeroForOne walk remaining step tick) :
      AfterPath pool zeroForOne remaining walk ⟨step.sqrtRatioNext, tick, walk.liquidity⟩
  | touch {remaining : Nat} {walk next : Walk} {step : SwapStep}
      (spends : Spends zeroForOne remaining walk)
      (less : remaining < pool.legCost zeroForOne walk)
      (computed : pool.inputStep zeroForOne walk remaining = some step)
      (reached : step.sqrtRatioNext = (pool.boundaryAt zeroForOne walk.tick).sqrtPriceNextX96)
      (crossed : pool.beyond zeroForOne walk = some next) :
      AfterPath pool zeroForOne remaining walk next

section Loop

variable {pool : ClmmPool} {zeroForOne : Bool}

/-- What one round does. -/
theorem Sound.exactIn_body_cases (sound : pool.Sound) {state : ExactIn} {result : ForInStep ExactIn}
    (ran : ExactIn.body pool true zeroForOne state = .ok result) :
    ∃ step, pool.inputStep zeroForOne state.walk state.amountRemaining = some step ∧
      ((step.sqrtRatioNext = (pool.boundaryAt zeroForOne state.walk.tick).sqrtPriceNextX96 ∧
          ∃ out crossed walk, pool.beyond zeroForOne state.walk = some walk ∧
            result = .yield ⟨state.amountRemaining - (step.amountIn + step.feeAmount), out, walk,
              crossed⟩) ∨
        (step.sqrtRatioNext ≠ (pool.boundaryAt zeroForOne state.walk.tick).sqrtPriceNextX96 ∧
          ∃ out crossed tick, getTickAtSqrtRatio step.sqrtRatioNext = some tick ∧
            result = .done ⟨state.amountRemaining - (step.amountIn + step.feeAmount), out,
              ⟨step.sqrtRatioNext, tick, state.walk.liquidity⟩, crossed⟩)) := by
  unfold ExactIn.body ExactIn.toBoundary at ran
  rw [sound.nextBoundary_eq, ok_bind] at ran
  simp only [bind_eq_ok, orError_eq_ok] at ran
  obtain ⟨step, computed, consumed, added, left, taken, out, produced, ran⟩ := ran
  obtain ⟨-, rfl⟩ := checkedAdd_eq_some.mp added
  obtain ⟨-, rfl⟩ := checkedSub_eq_some.mp taken
  refine ⟨step, computed, ?_⟩
  split at ran
  · rename_i reached
    obtain ⟨walk, crossed, ran⟩ := bind_eq_ok.mp ran
    exact Or.inl ⟨reached, _, _, walk, beyond_eq_some.mpr crossed, (pure_eq_ok.mp ran).symm⟩
  · rename_i inside
    obtain ⟨tick, found, ran⟩ := bind_eq_ok.mp ran
    exact Or.inr ⟨inside, _, _, tick, orError_eq_ok.mp found, (pure_eq_ok.mp ran).symm⟩

/-- A loop that ends with nothing left has gone along a path. -/
theorem Sound.exactInLoop_afterPath (sound : pool.Sound) {rounds remaining out crossed : Nat}
    {walk : Walk} {final : ExactIn} (valid : walk.Valid zeroForOne) (bounded : remaining < 2 ^ 255)
    (returned : pool.exactInLoop true zeroForOne rounds ⟨remaining, out, walk, crossed⟩ = .ok final)
    (none : final.amountRemaining = 0) :
    AfterPath pool zeroForOne remaining walk final.walk := by
  induction rounds generalizing remaining out walk crossed with
  | zero => cases returned
  | succ rounds ih =>
    rcases whileLoop_cases returned with ⟨stop, rfl⟩ | ⟨go, ran⟩ | ⟨next, go, ran, rest⟩
    · change remaining = 0 at none
      subst none
      exact .spent
    all_goals
      simp only [ExactIn.condition, decide_eq_true_eq] at go
      have spends : Spends zeroForOne remaining walk := ⟨go.1, go.2⟩
      obtain ⟨step, computed, ⟨reached, _, _, behind, beyond, isNext⟩ |
        ⟨inside, _, _, tick, found, isFinal⟩⟩ := sound.exactIn_body_cases ran
    · cases isNext
    · cases isFinal
      by_cases covers : pool.legCost zeroForOne walk ≤ remaining
      · obtain ⟨_, computed', atTarget, -⟩ := sound.inputStep_full valid bounded covers
        cases computed.symm.trans computed'
        rw [atTarget] at found inside ⊢
        exact .limit spends covers inside found
      · exact .part spends ⟨Nat.not_le.mp covers, computed, inside, found⟩
    · cases isNext
      by_cases covers : pool.legCost zeroForOne walk ≤ remaining
      · obtain ⟨_, computed', atTarget, cost, -⟩ := sound.inputStep_full valid bounded covers
        cases computed.symm.trans computed'
        have crosses : pool.Crosses zeroForOne walk behind := ⟨atTarget.symm.trans reached, beyond⟩
        rw [cost] at rest
        exact .leg spends covers crosses (ih (crosses.valid valid) (by omega) rest)
      · have less := Nat.not_le.mp covers
        obtain ⟨_, computed', part⟩ := sound.inputStep_part valid bounded less
        cases computed.symm.trans computed'
        rw [part.spent, Nat.sub_self] at rest
        have stays : final.walk = behind := by
          rcases rounds with _ | rounds
          · cases rest
          · rw [whileLoop_stop (by simp [ExactIn.condition])] at rest
            cases rest
            rfl
        rw [stays]
        exact .touch spends less computed reached beyond
    · cases isFinal

end Loop

/-! ## Where a price belongs -/

section Place

variable {pool : ClmmPool} {zeroForOne : Bool} {walk next : Walk}

/-- A placed price has a tick with a price. -/
theorem placed_range (placed : walk.Placed) : minTick ≤ walk.tick ∧ walk.tick ≤ maxTick := by
  obtain ⟨⟨ratio, priced, -⟩, -⟩ := Walk.placed_iff.mp placed
  exact getSqrtRatioAtTick_range priced

/-- No initialized tick lies between the traversal and its next boundary. -/
theorem Sound.not_passed (sound : pool.Sound) (range : minTick ≤ walk.tick ∧ walk.tick ≤ maxTick)
    {other : Int} (mem : other ∈ pool.ticks) :
    ¬ Passed zeroForOne walk.tick (pool.boundaryAt zeroForOne walk.tick).tickNext other := by
  have passed := (sound.foundTick walk.tick zeroForOne).passed other mem
  have side := (sound.foundTick walk.tick zeroForOne).side
  have tickNext : (pool.boundaryAt zeroForOne walk.tick).tickNext =
      clampTick ((pool.searchWord walk.tick zeroForOne).1 * pool.scale) :=
    (sound.clamped_eq walk.tick zeroForOne).1
  rw [tickNext]
  generalize (pool.searchWord walk.tick zeroForOne).1 * pool.scale = found at passed side
  unfold Passed clampTick at *
  cases zeroForOne with
  | true =>
    simp only [if_true] at *
    omega
  | false =>
    simp only [Bool.false_eq_true, if_false] at *
    omega

/-- The next boundary lies ahead, at a price that is not behind. -/
theorem Sound.boundary_ahead (sound : pool.Sound) (placed : walk.Placed)
    (valid : walk.Valid zeroForOne) :
    (zeroForOne = true → (pool.boundaryAt zeroForOne walk.tick).tickNext ≤ walk.tick ∧
      (pool.boundaryAt zeroForOne walk.tick).sqrtPriceNextX96 ≤ walk.sqrtPriceX96) ∧
    (zeroForOne = false → walk.tick < (pool.boundaryAt zeroForOne walk.tick).tickNext ∧
      walk.sqrtPriceX96 ≤ (pool.boundaryAt zeroForOne walk.tick).sqrtPriceNextX96) := by
  have range := placed_range placed
  have priced := boundaryAt_priced pool zeroForOne walk.tick
  obtain ⟨⟨ratio, pricedTick, le⟩, upper⟩ := Walk.placed_iff.mp placed
  constructor
  · rintro rfl
    have ahead : (pool.boundaryAt true walk.tick).tickNext ≤ walk.tick := sound.clamped_le range.1
    have below := (getSqrtRatioAtTick_le_iff priced pricedTick).mpr ahead
    exact ⟨ahead, below.trans le⟩
  · rintro rfl
    have inside : walk.tick < maxTick := by
      by_contra outside
      have last : walk.tick = maxTick := by omega
      have highest : getSqrtRatioAtTick maxTick = some maxSqrtRatio := by decide +kernel
      rw [last, highest] at pricedTick
      have limit : walk.sqrtPriceX96 ≤ maxSqrtRatio - 1 := valid.limit rfl
      have positive : 0 < maxSqrtRatio := by decide
      cases pricedTick
      omega
    have ahead : walk.tick < (pool.boundaryAt false walk.tick).tickNext := sound.lt_clamped inside
    unfold minTick maxTick at *
    obtain ⟨above, pricedNext⟩ := getSqrtRatioAtTick_isSome
      (by omega : -887272 ≤ walk.tick + 1) (by omega)
    have further := (getSqrtRatioAtTick_le_iff pricedNext priced).mpr ahead
    exact ⟨ahead, (upper above pricedNext).trans further⟩

/-- Behind a boundary the price is placed, on the far side of its tick. -/
theorem Sound.placed_beyond (sound : pool.Sound) (valid : walk.Valid zeroForOne)
    (crosses : pool.Crosses zeroForOne walk next) : next.Placed := by
  obtain ⟨price, tick, -⟩ := behind_spec valid.active (behind_of_beyond crosses.beyond)
  have priced := boundaryAt_priced pool zeroForOne walk.tick
  have range := boundaryAt_range pool zeroForOne walk.tick
  rw [Walk.placed_iff, price, tick]
  cases zeroForOne with
  | true =>
    simp only [if_true, sub_add_cancel]
    have above : minTick < (pool.boundaryAt true walk.tick).tickNext :=
      (sound.ends_ahead crosses.ends).1
    unfold minTick maxTick at *
    obtain ⟨below, pricedBelow⟩ := getSqrtRatioAtTick_isSome
      (by omega : -887272 ≤ (pool.boundaryAt true walk.tick).tickNext - 1) (by omega)
    refine ⟨⟨below, pricedBelow, ?_⟩, ?_⟩
    · exact (getSqrtRatioAtTick_le_iff pricedBelow priced).mpr (by omega)
    · intro ratio same
      exact (Option.some.inj (priced.symm.trans same)).le
  | false =>
    simp only [Bool.false_eq_true, if_false]
    refine ⟨⟨_, priced, le_rfl⟩, ?_⟩
    intro ratio pricedNext
    exact (getSqrtRatioAtTick_le_iff priced pricedNext).mpr (by omega)

variable {tick : Int}

theorem placed_of_tick {price liquidity : Nat} (found : getTickAtSqrtRatio price = some tick) :
    Walk.Placed ⟨price, tick, liquidity⟩ := by
  obtain ⟨ratio, above, priced, pricedNext, le, lt⟩ := getTickAtSqrtRatio_spec found
  rw [Walk.placed_iff]
  refine ⟨⟨ratio, priced, le⟩, ?_⟩
  intro other same
  cases pricedNext.symm.trans same
  exact lt.le

/-- A price on a leg, short of its boundary: its own tick brings in what the traversal's tick does,
unless the price has stayed at that of the tick above. -/
theorem Sound.netUpTo_inside (sound : pool.Sound) (placed : walk.Placed)
    (valid : walk.Valid zeroForOne) {reached : Nat} (down : zeroForOne = true →
      (pool.boundaryAt zeroForOne walk.tick).sqrtPriceNextX96 < reached ∧
        reached ≤ walk.sqrtPriceX96) (up : zeroForOne = false → walk.sqrtPriceX96 ≤ reached ∧
      reached < (pool.boundaryAt zeroForOne walk.tick).sqrtPriceNextX96)
    (found : getTickAtSqrtRatio reached = some tick) :
    pool.netUpTo tick = pool.netUpTo walk.tick ∨
      (zeroForOne = true ∧ tick = walk.tick + 1 ∧ reached = walk.sqrtPriceX96 ∧
        getSqrtRatioAtTick (walk.tick + 1) = some walk.sqrtPriceX96) := by
  have range := placed_range placed
  have priced := boundaryAt_priced pool zeroForOne walk.tick
  obtain ⟨⟨ratio, pricedTick, le⟩, upper⟩ := Walk.placed_iff.mp placed
  obtain ⟨own, above, pricedOwn, pricedAbove, ownLe, ltAbove⟩ :=
    getTickAtSqrtRatio_spec found
  have absent {other : Int} (mem : other ∈ pool.ticks) :=
    @not_passed pool zeroForOne walk sound range other mem
  cases zeroForOne with
  | true =>
    obtain ⟨past, back⟩ := down rfl
    have from_ : (pool.boundaryAt true walk.tick).tickNext ≤ tick := by
      by_contra less
      have := (getSqrtRatioAtTick_le_iff pricedAbove priced).mpr (by omega)
      omega
    by_cases inside : tick ≤ walk.tick
    · left
      apply sound.netUpTo_congr inside
      intro other after upTo mem
      exact absent mem (by simp only [Passed, if_true]; omega)
    · -- the price of the own tick is at most that of the tick above the traversal
      right
      have next : getSqrtRatioAtTick (walk.tick + 1) = some walk.sqrtPriceX96 ∧
          tick = walk.tick + 1 ∧ reached = walk.sqrtPriceX96 := by
        have last := (getSqrtRatioAtTick_range pricedOwn).2
        unfold minTick maxTick at range
        obtain ⟨first, pricedFirst⟩ := getSqrtRatioAtTick_isSome
          (by omega : -887272 ≤ walk.tick + 1) (by omega)
        have bound := upper first pricedFirst
        have order := (getSqrtRatioAtTick_le_iff pricedFirst pricedOwn).mpr (by omega)
        have same : first = walk.sqrtPriceX96 := by omega
        have atMost := (getSqrtRatioAtTick_le_iff pricedOwn pricedFirst).mp (by omega)
        exact ⟨same ▸ pricedFirst, by omega, by omega⟩
      exact ⟨rfl, next.2.1, next.2.2, next.1⟩
  | false =>
    obtain ⟨forward, short⟩ := up rfl
    left
    have from_ : walk.tick ≤ tick := by
      by_contra less
      have := (getSqrtRatioAtTick_le_iff pricedAbove pricedTick).mpr (by omega)
      omega
    have before : tick < (pool.boundaryAt false walk.tick).tickNext := by
      by_contra past
      have := (getSqrtRatioAtTick_le_iff priced pricedOwn).mpr (by omega)
      omega
    symm
    apply sound.netUpTo_congr from_
    intro other after upTo mem
    exact absent mem (by simp only [Passed, Bool.false_eq_true, if_false]; omega)

end Place

/-! ## Amounts that end on the wrong side -/

/-- The whole legs of an amount lead to a remainder that does not leave the price of the tick above
the traversal, where that tick has net liquidity; or the traversal starts at the lowest price, below
the limit of the swap, and does not leave it. -/
inductive EndsMisplaced (pool : ClmmPool) (zeroForOne : Bool) : Nat → Walk → Prop
  | stalls {remaining : Nat} {walk : Walk} (down : zeroForOne = true)
      (spends : Spends zeroForOne remaining walk)
      (less : remaining < pool.legCost zeroForOne walk)
      (stays : getNextSqrtPriceFromInput walk.sqrtPriceX96 walk.liquidity
        (lessFee remaining (pool.feePipsForDirection zeroForOne)) true = some walk.sqrtPriceX96)
      (onTick : getSqrtRatioAtTick (walk.tick + 1) = some walk.sqrtPriceX96)
      (net : (pool.position (walk.tick + 1)).net ≠ 0) :
      EndsMisplaced pool zeroForOne remaining walk
  | lowest {remaining : Nat} {walk : Walk} (down : zeroForOne = true) (positive : remaining ≠ 0)
      (less : remaining < pool.legCost zeroForOne walk)
      (atEnd : walk.sqrtPriceX96 = minSqrtRatio) : EndsMisplaced pool zeroForOne remaining walk
  | leg {remaining : Nat} {walk next : Walk} (spends : Spends zeroForOne remaining walk)
      (covers : pool.legCost zeroForOne walk ≤ remaining)
      (crosses : pool.Crosses zeroForOne walk next)
      (rest : EndsMisplaced pool zeroForOne (remaining - pool.legCost zeroForOne walk) next) :
      EndsMisplaced pool zeroForOne remaining walk

section Misplaced

variable {pool : ClmmPool} {zeroForOne : Bool} {walk next : Walk} {remaining : Nat}

/-- A price on a leg that is not its boundary's lies short of it, except from the lowest price. -/
theorem Sound.short_of_boundary (sound : pool.Sound) (placed : walk.Placed)
    (valid : walk.Valid zeroForOne) (goes : walk.sqrtPriceX96 ≠ sqrtPriceLimitX96 zeroForOne)
    (higher : zeroForOne = true → walk.sqrtPriceX96 ≠ minSqrtRatio) {reached : Nat}
    (between : Between walk.sqrtPriceX96 (pool.target zeroForOne walk) reached)
    (inside : reached ≠ (pool.boundaryAt zeroForOne walk.tick).sqrtPriceNextX96) :
    (zeroForOne = true →
      (pool.boundaryAt zeroForOne walk.tick).sqrtPriceNextX96 < reached ∧
        reached ≤ walk.sqrtPriceX96) ∧
    (zeroForOne = false → walk.sqrtPriceX96 ≤ reached ∧
      reached < (pool.boundaryAt zeroForOne walk.tick).sqrtPriceNextX96) := by
  obtain ⟨behind, ahead⟩ := sound.boundary_ahead placed valid
  obtain ⟨forward, short⟩ := between
  have target := target_eq pool zeroForOne walk
  have low := valid.low
  unfold sqrtPriceTarget at target
  unfold Towards direction at forward short
  constructor
  · rintro rfl
    have limit : sqrtPriceLimitX96 true = minSqrtRatio + 1 := rfl
    have above := higher rfl
    have back := (behind rfl).2
    rw [if_pos rfl, limit] at target
    split_ifs at forward short with direction <;> simp only [decide_eq_true_eq] at direction <;> omega
  · rintro rfl
    have start := valid.limit rfl
    have away := (ahead rfl).2
    rw [if_neg Bool.false_ne_true] at target
    split_ifs at forward short with direction <;> simp only [decide_eq_true_eq] at direction <;> omega

/-- At the lowest price, a step down cannot pass the limit, which lies above it. -/
theorem Sound.lowest_target (sound : pool.Sound) (placed : walk.Placed)
    (valid : walk.Valid true) (atEnd : walk.sqrtPriceX96 = minSqrtRatio) :
    walk.tick = minTick ∧ (pool.boundaryAt true walk.tick).tickNext = minTick ∧
      (pool.boundaryAt true walk.tick).sqrtPriceNextX96 = minSqrtRatio ∧
      pool.target true walk = minSqrtRatio + 1 := by
  have lowest : getSqrtRatioAtTick minTick = some minSqrtRatio := by decide +kernel
  obtain ⟨⟨ratio, pricedTick, le⟩, -⟩ := Walk.placed_iff.mp placed
  have range := placed_range placed
  have priced := boundaryAt_priced pool true walk.tick
  have nextRange := boundaryAt_range pool true walk.tick
  have first : walk.tick ≤ minTick :=
    (getSqrtRatioAtTick_le_iff pricedTick lowest).mp (atEnd ▸ le)
  have ahead := ((sound.boundary_ahead placed valid).1 rfl).1
  have atFirst : (pool.boundaryAt true walk.tick).tickNext = minTick := by omega
  rw [atFirst, lowest] at priced
  have price := (Option.some.inj priced).symm
  refine ⟨by omega, atFirst, price, ?_⟩
  have limit : sqrtPriceLimitX96 true = minSqrtRatio + 1 := rfl
  rw [target_eq, sqrtPriceTarget, if_pos rfl, price, limit]
  omega

theorem endsMisplaced_leg_iff (spends : Spends zeroForOne remaining walk)
    (covers : pool.legCost zeroForOne walk ≤ remaining)
    (crosses : pool.Crosses zeroForOne walk next) :
    EndsMisplaced pool zeroForOne remaining walk ↔
      EndsMisplaced pool zeroForOne (remaining - pool.legCost zeroForOne walk) next := by
  constructor
  · intro misplaced
    cases misplaced with
    | stalls _ _ less | lowest _ _ less => exact absurd covers (Nat.not_le.mpr less)
    | leg _ _ crosses' rest =>
      cases crosses.beyond.symm.trans crosses'.beyond
      exact rest
  · exact .leg spends covers crosses

theorem not_endsMisplaced_limit (covers : pool.legCost zeroForOne walk ≤ remaining)
    (elsewhere : ¬ pool.EndsAtTick zeroForOne walk) :
    ¬ EndsMisplaced pool zeroForOne remaining walk := by
  intro misplaced
  cases misplaced with
  | stalls _ _ less | lowest _ _ less => exact absurd covers (Nat.not_le.mpr less)
  | leg _ _ crosses => exact elsewhere crosses.ends

/-- Upwards no amount ends on the wrong side. -/
theorem not_endsMisplaced_up : ¬ EndsMisplaced pool false remaining walk := by
  intro misplaced
  induction misplaced with
  | stalls down | lowest down => cases down
  | leg _ _ _ _ ih => exact ih

variable {tick : Int}

/-- At the limit of the swap, the state is coherent. -/
theorem Sound.coherent_limit (sound : pool.Sound) (coherent : walk.Coherent pool)
    (valid : walk.Valid zeroForOne) (goes : walk.sqrtPriceX96 ≠ sqrtPriceLimitX96 zeroForOne)
    (elsewhere : ¬ pool.EndsAtTick zeroForOne walk)
    (found : getTickAtSqrtRatio (pool.target zeroForOne walk) = some tick) :
    Walk.Coherent pool ⟨pool.target zeroForOne walk, tick, walk.liquidity⟩ := by
  obtain ⟨placed, backed⟩ := coherent
  refine ⟨placed_of_tick found, ?_⟩
  change (walk.liquidity : Int) = pool.netUpTo tick
  rw [backed]
  by_cases atEnd : zeroForOne = true ∧ walk.sqrtPriceX96 = minSqrtRatio
  · obtain ⟨rfl, atEnd⟩ := atEnd
    obtain ⟨first, -, -, target⟩ := sound.lowest_target placed valid atEnd
    have own : getTickAtSqrtRatio (minSqrtRatio + 1) = some minTick := by decide +kernel
    rw [target, own] at found
    rw [first, Option.some.inj found]
  · obtain ⟨down, up⟩ := sound.short_of_boundary placed valid goes
      (fun isDown price => atEnd ⟨isDown, price⟩) (between_target _ _) elsewhere
    rcases sound.netUpTo_inside placed valid down up found with same | ⟨rfl, -, stayed, -⟩
    · exact same.symm
    · -- a leg that ends at the limit leaves the price at the limit
      have target := target_eq pool true walk
      have limit := (target_bounds pool true walk).2.2.2 rfl
      have past := (down rfl).1
      rw [sqrtPriceTarget, if_pos rfl] at target
      omega

variable {step : SwapStep}

/-- From the lowest price, a part of the way up to the limit is none of it. -/
theorem Sound.lowest_stays (sound : pool.Sound) (placed : walk.Placed) (valid : walk.Valid true)
    (atEnd : walk.sqrtPriceX96 = minSqrtRatio)
    (part : SpentPart walk.sqrtPriceX96 (pool.target true walk) remaining step) :
    step.sqrtRatioNext = (pool.boundaryAt true walk.tick).sqrtPriceNextX96 := by
  obtain ⟨-, -, boundary, target⟩ := sound.lowest_target placed valid atEnd
  rw [target, atEnd] at part
  exact part.stays.trans boundary.symm

/-- After a part of a leg, the state is coherent unless the amount is misplaced. -/
theorem Sound.coherent_part_iff (sound : pool.Sound) (coherent : walk.Coherent pool)
    (valid : walk.Valid zeroForOne) (bounded : remaining < 2 ^ 255)
    (spends : Spends zeroForOne remaining walk)
    (stops : pool.StopsInside zeroForOne walk remaining step tick) :
    Walk.Coherent pool ⟨step.sqrtRatioNext, tick, walk.liquidity⟩ ↔
      ¬ EndsMisplaced pool zeroForOne remaining walk := by
  obtain ⟨placed, backed⟩ := coherent
  obtain ⟨less, computed, inside, found⟩ := stops
  obtain ⟨_, computed', part⟩ := sound.inputStep_part valid bounded less
  cases computed.symm.trans computed'
  have higher : zeroForOne = true → walk.sqrtPriceX96 ≠ minSqrtRatio := by
    rintro rfl atEnd
    exact inside (sound.lowest_stays placed valid atEnd part)
  obtain ⟨down, up⟩ := sound.short_of_boundary placed valid spends.goes higher
    ⟨part.forward, part.short⟩ inside
  -- the price at which the step stops, as the library computes it
  have stops : zeroForOne = true → getNextSqrtPriceFromInput walk.sqrtPriceX96 walk.liquidity
      (lessFee remaining (pool.feePipsForDirection zeroForOne)) true =
        some step.sqrtRatioNext := by
    rintro rfl
    obtain ⟨next, reached, -, stepped⟩ := computeSwapStep_part_eq (valid.priced pool)
      sound.fee_lt (bounded.trans (by norm_num)) less
    have downwards : direction walk.sqrtPriceX96 (pool.target true walk) = true := by
      have target := target_eq pool true walk
      have limit : sqrtPriceLimitX96 true = minSqrtRatio + 1 := rfl
      have low := valid.low
      have above := higher rfl
      have back := (down rfl).1.le.trans (down rfl).2
      rw [sqrtPriceTarget, if_pos rfl, limit] at target
      exact decide_eq_true (by omega)
    rw [downwards] at reached
    cases stepped.symm.trans computed
    exact reached
  have coherent_iff : Walk.Coherent pool ⟨step.sqrtRatioNext, tick, walk.liquidity⟩ ↔
      pool.netUpTo walk.tick = pool.netUpTo tick := by
    rw [← backed]
    exact and_iff_right (placed_of_tick found)
  rw [coherent_iff]
  constructor
  · intro same misplaced
    cases misplaced with
    | stalls isDown _ _ stays onTick net =>
      subst isDown
      have stayed := Option.some.inj ((stops rfl).symm.trans stays)
      rw [stayed] at found
      obtain ⟨own, above, pricedOwn, pricedAbove, le, lt⟩ := getTickAtSqrtRatio_spec found
      have upper := (getSqrtRatioAtTick_le_iff pricedOwn onTick).mp le
      have lower : ¬ tick + 1 ≤ walk.tick + 1 := fun le' =>
        absurd ((getSqrtRatioAtTick_le_iff pricedAbove onTick).mpr le') (Nat.not_le.mpr lt)
      have isNext : tick = walk.tick + 1 := by omega
      have range := placed_range placed
      have sum := sound.netUpTo_pred (by omega : minTick ≤ walk.tick + 1)
      rw [add_sub_cancel_right] at sum
      rw [isNext] at same
      omega
    | lowest isDown _ _ atEnd => exact higher isDown atEnd
    | leg _ covers => exact absurd covers (Nat.not_le.mpr less)
  · intro notMisplaced
    rcases sound.netUpTo_inside placed valid down up found with same | ⟨rfl, rfl, stayed, onTick⟩
    · exact same.symm
    · by_contra different
      apply notMisplaced
      refine .stalls rfl spends less (stayed ▸ stops rfl) onTick ?_
      intro zero
      have range := placed_range placed
      have sum := sound.netUpTo_pred (by omega : minTick ≤ walk.tick + 1)
      rw [add_sub_cancel_right, zero] at sum
      omega

/-- A path ends in a coherent state unless its amount is misplaced. -/
theorem Sound.coherent_after_iff (sound : pool.Sound) {final : Walk}
    (path : AfterPath pool zeroForOne remaining walk final) (coherent : walk.Coherent pool)
    (valid : walk.Valid zeroForOne) (bounded : remaining < 2 ^ 255) :
    final.Coherent pool ↔ ¬ EndsMisplaced pool zeroForOne remaining walk := by
  induction path with
  | spent =>
    refine iff_of_true coherent ?_
    intro misplaced
    cases misplaced with
    | stalls _ spends | leg spends => exact spends.positive rfl
    | lowest _ positive => exact positive rfl
  | @leg remaining walk next final spends covers crosses rest ih =>
    have backed := sound.backed_behind valid coherent.2 (behind_of_beyond crosses.beyond)
    rw [endsMisplaced_leg_iff spends covers crosses]
    exact ih ⟨sound.placed_beyond valid crosses, backed⟩ (crosses.valid valid) (by omega)
  | limit spends covers elsewhere found =>
    exact iff_of_true (sound.coherent_limit coherent valid spends.goes elsewhere found)
      (not_endsMisplaced_limit covers elsewhere)
  | part spends stops => exact sound.coherent_part_iff coherent valid bounded spends stops
  | @touch remaining walk next step spends less computed reached crossed =>
    obtain ⟨_, computed', part⟩ := sound.inputStep_part valid bounded less
    cases computed.symm.trans computed'
    obtain ⟨forward, short, ne, -, -⟩ := part
    rw [reached] at forward short ne
    obtain ⟨rfl, atEnd, -⟩ := lowest_of_touch valid ⟨forward, short⟩ (Ne.symm ne)
    obtain ⟨-, tickNext, -, -⟩ := sound.lowest_target coherent.1 valid atEnd
    obtain ⟨-, tick, -⟩ := behind_spec valid.active (behind_of_beyond crossed)
    rw [if_pos rfl, tickNext] at tick
    refine iff_of_false ?_ (not_not.mpr (.lowest rfl spends.positive less atEnd))
    intro coherentAfter
    have range := placed_range coherentAfter.1
    omega

/-- From a coherent pool, a quote of an exact input returns a coherent state exactly when its amount
does not end on the wrong side of a tick. -/
theorem quoteExactIn_coherent_iff (sound : pool.Sound) (coherent : pool.start.Coherent pool)
    {amountIn : Nat} {quote : LocalQuote}
    (quoted : pool.quoteExactIn zeroForOne amountIn = .ok quote) :
    quote.after.Coherent pool ↔ ¬ EndsMisplaced pool zeroForOne amountIn pool.start := by
  simp only [quoteExactIn, quoteExactInImpl, bind_eq_ok, require_eq_ok, pure_eq_ok, exists_const]
    at quoted
  obtain ⟨-, bounded, final, ran, none, rfl⟩ := quoted
  exact sound.coherent_after_iff
    (sound.exactInLoop_afterPath sound.valid_start bounded ran none) coherent sound.valid_start
    bounded

/-- A pool whose head sits on the upper tick of a position, with another one around it. -/
def upperTickPool : ClmmPool :=
  (((fresh 3000 60 79466191966197645195421774833 60 500).after (.setTick (-60) 500 500)).after
    (.setTick 60 500 (-500))).after (.setTick (-120) 500 500)

theorem upperTickPool_reachable : upperTickPool.Reachable :=
  .after (.after (.after (.fresh (by norm_num) rfl) trivial) trivial) trivial

theorem upperTickPool_coherent : upperTickPool.start.Coherent upperTickPool := by
  decide +kernel

/-- One unit crosses the tick, is taken by the fee, and is reported at the tick above the liquidity
that it returns. -/
theorem one_unit_ends_misplaced :
    upperTickPool.Reachable ∧ upperTickPool.start.Coherent upperTickPool ∧
      upperTickPool.quoteExactIn true 1 =
        .ok ⟨0, 79466191966197645195421774833, 60, 1000, 1⟩ ∧
      upperTickPool.netUpTo 60 = 500 := by
  refine ⟨upperTickPool_reachable, upperTickPool_coherent, ?_, ?_⟩
  all_goals decide +kernel

/-- Upwards the state is coherent; of the unit that goes down, the equivalence says the opposite. -/
theorem upperTickPool_ends :
    (∃ quote, upperTickPool.quoteExactIn false 10 = .ok quote ∧
      quote.after.Coherent upperTickPool) ∧
    EndsMisplaced upperTickPool true 1 upperTickPool.start := by
  have up : upperTickPool.quoteExactIn false 10 =
      .ok ⟨8, 80892298891454403272105565939, 415, 500, 0⟩ := by decide +kernel
  have down : upperTickPool.quoteExactIn true 1 =
      .ok ⟨0, 79466191966197645195421774833, 60, 1000, 1⟩ := by decide +kernel
  have sound := upperTickPool_reachable.sound
  refine ⟨⟨_, up, (quoteExactIn_coherent_iff sound upperTickPool_coherent up).mpr
    not_endsMisplaced_up⟩, ?_⟩
  by_contra placed
  have coherent := (quoteExactIn_coherent_iff sound upperTickPool_coherent down).mpr placed
  revert coherent
  decide +kernel

end Misplaced

end ClmmPool

end PolyBot.Dex
