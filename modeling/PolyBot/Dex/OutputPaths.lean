import PolyBot.Dex.Paths

/-!
# Paths of exact outputs

The loop of an exact output stops where nothing remains, at the limit, and at a range without
liquidity.  It keeps two sums: what has been paid, and what had been paid at the last leg that
produced anything.

* `ClmmPool.Sound.exactOutLoop_iff`: the loop returns exactly what its path yields.
* `ClmmPool.Sound.quoteExactOutAmountIn_iff`, `ClmmPool.Sound.exactOutputResultCapacityBounded_iff`:
  so do the quote and the capacity, which read one sum each.
-/

namespace PolyBot.Dex

open SwapMath

/-- The sums of the loop of an exact output. -/
structure OutputTotals where
  remaining : Nat
  paid : Nat
  productive : Nat

/-- The sums after a step. -/
def OutputTotals.after (totals : OutputTotals) (output cost : Nat) : OutputTotals :=
  ⟨totals.remaining - output, totals.paid + cost,
    if output ≠ 0 then totals.paid + cost else totals.productive⟩

namespace ClmmPool

variable (pool : ClmmPool) (zeroForOne : Bool) (walk : Walk)

/-- The price at which part of a leg's output has come out. -/
def partPrice (amount : Nat) : Nat :=
  priceYielding walk.sqrtPriceX96 (pool.target zeroForOne walk) walk.liquidity amount

/-- The cost of part of a leg's output. -/
def partCost (amount : Nat) : Nat :=
  costOf walk.sqrtPriceX96 (pool.target zeroForOne walk) walk.liquidity
    (pool.feePipsForDirection zeroForOne) amount

/-- The step of an exact output on a leg. -/
def outputStep (amount : Nat) : Option SwapStep :=
  computeSwapStep walk.sqrtPriceX96 (pool.target zeroForOne walk) walk.liquidity (-amount)
    (pool.feePipsForDirection zeroForOne)

/-- The loop goes on. -/
structure Produces (zeroForOne : Bool) (remaining : Nat) (walk : Walk) : Prop
    extends Spends zeroForOne remaining walk where
  funded : walk.liquidity ≠ 0

/-- The paths of an exact output, with the sums at the start of a leg and at the end. -/
inductive OutputPath (pool : ClmmPool) (zeroForOne : Bool) :
    OutputTotals → Walk → OutputTotals → Prop
  | stop {totals : OutputTotals} {walk : Walk}
      (stops : ¬ Produces zeroForOne totals.remaining walk) :
      OutputPath pool zeroForOne totals walk totals
  | leg {totals final : OutputTotals} {walk next : Walk}
      (produces : Produces zeroForOne totals.remaining walk)
      (covers : pool.legOutput zeroForOne walk ≤ totals.remaining)
      (crosses : pool.Crosses zeroForOne walk next)
      (rest : OutputPath pool zeroForOne
        (totals.after (pool.legOutput zeroForOne walk) (pool.legCost zeroForOne walk)) next final) :
      OutputPath pool zeroForOne totals walk final
  | limit {totals : OutputTotals} {walk : Walk}
      (produces : Produces zeroForOne totals.remaining walk)
      (covers : pool.legOutput zeroForOne walk ≤ totals.remaining)
      (elsewhere : ¬ pool.EndsAtTick zeroForOne walk) :
      OutputPath pool zeroForOne totals walk
        (totals.after (pool.legOutput zeroForOne walk) (pool.legCost zeroForOne walk))
  | part {totals : OutputTotals} {walk : Walk}
      (produces : Produces zeroForOne totals.remaining walk)
      (less : totals.remaining < pool.legOutput zeroForOne walk)
      (passes : pool.Passes zeroForOne walk (pool.partPrice zeroForOne walk totals.remaining)) :
      OutputPath pool zeroForOne totals walk
        (totals.after totals.remaining (pool.partCost zeroForOne walk totals.remaining))

/-- The sums in the state of the loop. -/
def ExactOut.totals (state : ExactOut) : OutputTotals :=
  ⟨state.amountRemaining, state.amountIn, state.preparedResultCapacity⟩

/-- The loop ends with these sums. -/
def ExactOut.Returns (result : Except ClmmError ExactOut) (final : OutputTotals) : Prop :=
  ∃ state, result = .ok state ∧ state.totals = final

section Output

variable {pool : ClmmPool} {zeroForOne : Bool} {walk next : Walk} {amount : Nat}
  {totals final : OutputTotals}

theorem Sound.legCost_lt (sound : pool.Sound) (valid : walk.Valid zeroForOne) :
    pool.legCost zeroForOne walk < 2 ^ 225 := by
  have low : 2 ^ 32 ≤ pool.target zeroForOne walk := by
    have := (target_bounds pool zeroForOne walk).1
    unfold minSqrtRatio at this
    omega
  have cost := fullCost_lt_of_low (valid.priced pool)
    (sound.fee_lt : pool.feePipsForDirection zeroForOne < 1000000) low
  unfold legCost
  omega

theorem Sound.partCost_le (sound : pool.Sound) (valid : walk.Valid zeroForOne) (amount : Nat) :
    pool.partCost zeroForOne walk amount ≤ pool.legCost zeroForOne walk :=
  costOf_le (valid.priced pool) sound.fee_lt

theorem partCost_ne_zero (valid : walk.Valid zeroForOne) (positive : amount ≠ 0)
    (less : amount < pool.legOutput zeroForOne walk) : pool.partCost zeroForOne walk amount ≠ 0 :=
  costOf_ne_zero (valid.priced pool) (Nat.pos_of_ne_zero positive) less

theorem Sound.outputStep_full (sound : pool.Sound) (valid : walk.Valid zeroForOne)
    (positive : amount ≠ 0) (covers : pool.legOutput zeroForOne walk ≤ amount) :
    ∃ step, pool.outputStep zeroForOne walk amount = some step ∧
      step.sqrtRatioNext = pool.target zeroForOne walk ∧
      step.amountOut = pool.legOutput zeroForOne walk ∧
      step.amountIn + step.feeAmount = pool.legCost zeroForOne walk :=
  ⟨_, computeSwapStep_output_full (valid.priced pool) sound.fee_lt (Nat.pos_of_ne_zero positive)
    covers, rfl, rfl, rfl⟩

theorem Sound.outputStep_part (sound : pool.Sound) (valid : walk.Valid zeroForOne)
    (positive : amount ≠ 0) (less : amount < pool.legOutput zeroForOne walk) :
    ∃ step, pool.outputStep zeroForOne walk amount = some step ∧
      step.sqrtRatioNext = pool.partPrice zeroForOne walk amount ∧
      step.amountOut = amount ∧
      step.amountIn + step.feeAmount = pool.partCost zeroForOne walk amount :=
  computeSwapStep_output_part (valid.priced pool) sound.fee_lt (Nat.pos_of_ne_zero positive) less

/-! One lemma for each way a path can go. -/

theorem outputPath_stop_iff (stops : ¬ Produces zeroForOne totals.remaining walk) :
    OutputPath pool zeroForOne totals walk final ↔ final = totals := by
  constructor
  · intro path
    cases path with
    | stop => rfl
    | leg produces | limit produces | part produces => exact absurd produces stops
  · rintro rfl
    exact .stop stops

section Goes

variable (produces : Produces zeroForOne totals.remaining walk)

include produces

theorem outputPath_leg_iff (covers : pool.legOutput zeroForOne walk ≤ totals.remaining)
    (ends : pool.EndsAtTick zeroForOne walk) :
    OutputPath pool zeroForOne totals walk final ↔
      ∃ next, pool.beyond zeroForOne walk = some next ∧ OutputPath pool zeroForOne
        (totals.after (pool.legOutput zeroForOne walk) (pool.legCost zeroForOne walk)) next final := by
  constructor
  · intro path
    cases path with
    | stop stops => exact absurd produces stops
    | leg _ _ crosses rest => exact ⟨_, crosses.beyond, rest⟩
    | limit _ _ elsewhere => exact absurd ends elsewhere
    | part _ less => exact absurd covers (Nat.not_le.mpr less)
  · rintro ⟨next, crossed, rest⟩
    exact .leg produces covers ⟨ends, crossed⟩ rest

theorem outputPath_limit_iff (covers : pool.legOutput zeroForOne walk ≤ totals.remaining)
    (elsewhere : ¬ pool.EndsAtTick zeroForOne walk) :
    OutputPath pool zeroForOne totals walk final ↔
      final = totals.after (pool.legOutput zeroForOne walk) (pool.legCost zeroForOne walk) := by
  constructor
  · intro path
    cases path with
    | stop stops => exact absurd produces stops
    | leg _ _ crosses => exact absurd crosses.ends elsewhere
    | limit => rfl
    | part _ less => exact absurd covers (Nat.not_le.mpr less)
  · rintro rfl
    exact .limit produces covers elsewhere

theorem outputPath_part_iff (less : totals.remaining < pool.legOutput zeroForOne walk) :
    OutputPath pool zeroForOne totals walk final ↔
      pool.Passes zeroForOne walk (pool.partPrice zeroForOne walk totals.remaining) ∧
        final = totals.after totals.remaining
          (pool.partCost zeroForOne walk totals.remaining) := by
  constructor
  · intro path
    cases path with
    | stop stops => exact absurd produces stops
    | leg _ covers | limit _ covers => exact absurd covers (Nat.not_le.mpr less)
    | part _ _ passes => exact ⟨passes, rfl⟩
  · rintro ⟨passes, rfl⟩
    exact .part produces less passes

end Goes

/-! ## The loop -/

variable {state : ExactOut}

theorem exactOut_condition_iff :
    ExactOut.condition zeroForOne state = true ↔
      Produces zeroForOne state.totals.remaining state.walk := by
  simp only [ExactOut.condition, decide_eq_true_eq]
  constructor
  · rintro ⟨positive, goes, funded⟩
    exact ⟨⟨positive, goes⟩, funded⟩
  · rintro ⟨⟨positive, goes⟩, funded⟩
    exact ⟨positive, goes, funded⟩

section Round

variable {state : ExactOut} {step : SwapStep}
  (computed : pool.outputStep zeroForOne state.walk state.amountRemaining = some step)
  (le : step.amountOut ≤ state.amountRemaining)
  (fits : state.amountIn + (step.amountIn + step.feeAmount) < 2 ^ 256)

include computed le fits

/-- One round of the loop, given what its step does. -/
theorem Sound.exactOut_body (sound : pool.Sound) :
    ∃ after : Walk → ExactOut,
      (∀ walk, (after walk).walk = walk ∧ (after walk).totals =
        state.totals.after step.amountOut (step.amountIn + step.feeAmount)) ∧
      ExactOut.body pool zeroForOne state =
        if step.sqrtRatioNext = (pool.boundaryAt zeroForOne state.walk.tick).sqrtPriceNextX96 then
          pool.behind zeroForOne "failed to cross initialized tick" state.walk >>= fun next =>
            .ok (.yield (after next))
        else .ok (.done (after ⟨step.sqrtRatioNext, state.walk.tick, state.walk.liquidity⟩)) := by
  have left : checkedSub state.amountRemaining step.amountOut =
      some (state.amountRemaining - step.amountOut) := checkedSub_eq_some.mpr ⟨le, rfl⟩
  have paid : (checkedAdd 256 state.amountIn step.amountIn).bind (checkedAdd 256 · step.feeAmount) =
      some (state.amountIn + (step.amountIn + step.feeAmount)) := by
    have first : checkedAdd 256 state.amountIn step.amountIn =
        some (state.amountIn + step.amountIn) := checkedAdd_eq_some.mpr ⟨by omega, rfl⟩
    rw [first, Option.bind_some, checkedAdd_eq_some, Nat.add_assoc]
    exact ⟨fits, rfl⟩
  refine ⟨fun walk => ⟨state.amountRemaining - step.amountOut,
    state.amountIn + (step.amountIn + step.feeAmount),
    ifProductive step (state.amountIn + (step.amountIn + step.feeAmount))
      state.preparedResultCapacity, walk⟩, fun walk => ⟨rfl, rfl⟩, ?_⟩
  unfold outputStep at computed
  unfold ExactOut.body
  simp only [sound.nextBoundary_eq, ok_bind]
  change (orError (computeSwapStep state.walk.sqrtPriceX96 (pool.target zeroForOne state.walk)
    state.walk.liquidity (-state.amountRemaining) (pool.feePipsForDirection zeroForOne)) _ >>= _) = _
  rw [computed]
  simp only [orError, ok_bind, left, paid]
  rfl

end Round

/-- A state that the loop can go on from. -/
def ExactOut.Ranged (zeroForOne : Bool) (state : ExactOut) : Prop :=
  state.amountRemaining ≠ 0 → state.walk.Valid zeroForOne ∧
    Roomy zeroForOne state.walk state.amountIn

section

variable (sound : pool.Sound)
include sound

/-- A round decides the path from where it starts. -/
theorem Sound.exactOut_decides (state : ExactOut)
    (ranged : state.Ranged zeroForOne) :
    RoundDecides (ExactOut.condition zeroForOne) (ExactOut.body pool zeroForOne)
      (ExactOut.Ranged zeroForOne) (fun last => last.totals = final)
      (fun state => OutputPath pool zeroForOne state.totals state.walk final)
      (fun state => roundsLeft zeroForOne state.amountRemaining state.walk) state := by
  unfold RoundDecides
  dsimp only
  by_cases go : ExactOut.condition zeroForOne state = true
  case neg =>
    rw [if_neg go, outputPath_stop_iff (mt exactOut_condition_iff.mpr go)]
    exact eq_comm
  case pos =>
    have produces := exactOut_condition_iff.mp go
    have positive : state.amountRemaining ≠ 0 := produces.positive
    obtain ⟨valid, roomy⟩ := ranged positive
    have small := sound.legCost_lt valid
    rw [if_pos go]
    by_cases covers : pool.legOutput zeroForOne state.walk ≤ state.amountRemaining
    · obtain ⟨step, computed, reached, produced, cost⟩ := sound.outputStep_full valid positive covers
      obtain ⟨after, sums, round⟩ := sound.exactOut_body computed (produced ▸ covers)
        (roomy.lt (cost ▸ small))
      rw [produced, cost] at sums
      rw [round]
      by_cases ends : pool.EndsAtTick zeroForOne state.walk
      · rw [if_pos (reached.trans ends), outputPath_leg_iff produces covers ends]
        rcases crossing : pool.beyond zeroForOne state.walk with _ | next
        · obtain ⟨e, failed⟩ := beyond_eq_none _ crossing
          rw [failed]
          exact fun ⟨_, crossed, _⟩ => nomatch crossed
        · have onLeg : OnLeg pool zeroForOne state.walk state.amountRemaining
              (pool.legOutput zeroForOne state.walk)
              (pool.boundaryAt zeroForOne state.walk.tick).sqrtPriceNextX96 :=
            ⟨ends ▸ between_target _ _, covers, Or.inl ends.symm⟩
          obtain ⟨valid', fewer, -⟩ := sound.round valid positive onLeg (behind_of_beyond crossing)
          obtain ⟨stands, total⟩ := sums next
          have left : (after next).amountRemaining =
              state.amountRemaining - pool.legOutput zeroForOne state.walk :=
            congrArg OutputTotals.remaining total
          have paid : (after next).amountIn = state.amountIn + pool.legCost zeroForOne state.walk :=
            congrArg OutputTotals.paid total
          have room := roomy.beyond sound valid small ⟨ends, crossing⟩
          rw [beyond_eq_some.mp crossing, ok_bind]
          refine ⟨fun _ => ?_, ?_, ?_⟩
          · rw [stands, paid]
            exact ⟨valid', room⟩
          · rw [stands, left]
            exact fewer
          · rw [stands, total]
            simp
      · rw [if_neg fun same => ends (reached.symm.trans same),
          outputPath_limit_iff produces covers ends, ← (sums _).2]
        exact eq_comm
    · have less := Nat.not_le.mp covers
      obtain ⟨step, computed, reached, produced, cost⟩ := sound.outputStep_part valid positive less
      obtain ⟨after, sums, round⟩ := sound.exactOut_body computed produced.le (by
        rw [cost]
        exact roomy.lt (lt_of_le_of_lt (sound.partCost_le valid _) small))
      rw [produced, cost] at sums
      rw [round, reached, outputPath_part_iff produces less]
      by_cases meets : pool.partPrice zeroForOne state.walk state.amountRemaining =
          (pool.boundaryAt zeroForOne state.walk.tick).sqrtPriceNextX96
      · rw [if_pos meets]
        rcases crossing : pool.beyond zeroForOne state.walk with _ | next
        · obtain ⟨e, failed⟩ := beyond_eq_none _ crossing
          rw [failed]
          exact fun ⟨passes, _⟩ => nomatch crossing.symm.trans (passes meets).choose_spec
        · -- nothing remains, so the next round is the last
          have ahead := ticksAhead_pos valid
          have none : (after next).amountRemaining = 0 := by
            have := congrArg OutputTotals.remaining (sums next).2
            exact this.trans (Nat.sub_self _)
          rw [beyond_eq_some.mp crossing, ok_bind]
          refine ⟨fun left => absurd none left, by simpa [roundsLeft, positive, none] using ahead, ?_⟩
          rw [outputPath_stop_iff fun produces => produces.positive none, (sums next).2]
          simp [Passes, crossing, ExactOut.totals]
      · rw [if_neg meets]
        dsimp only
        rw [(sums _).2]
        simp [Passes, meets, ExactOut.totals, eq_comm]

/-- The loop returns exactly what its path yields. -/
theorem Sound.exactOutLoop_iff {rounds : Nat}
    (valid : state.walk.Valid zeroForOne) (roomy : Roomy zeroForOne state.walk state.amountIn)
    (enough : roundsLeft zeroForOne state.amountRemaining state.walk < rounds) :
    ExactOut.Returns (pool.exactOutLoop zeroForOne rounds state) final ↔
      OutputPath pool zeroForOne state.totals state.walk final :=
  whileLoop_iff sound.exactOut_decides (fun _ => ⟨valid, roomy⟩) enough

/-- The loop of a quote returns exactly the path from the start. -/
theorem Sound.exactOutLoop_start_iff :
    ExactOut.Returns (pool.exactOutLoop zeroForOne traversalRounds ⟨amount, 0, 0, pool.start⟩)
        final ↔
      OutputPath pool zeroForOne ⟨amount, 0, 0⟩ pool.start final := by
  have valid : pool.start.Valid zeroForOne := sound.valid_start
  exact sound.exactOutLoop_iff valid sound.roomy_start (roundsLeft_lt valid _)

variable {result : Nat}

/-- The quote of an exact output is what its path has paid once nothing remains. -/
theorem Sound.quoteExactOutAmountIn_iff (positive : amount ≠ 0)
    (bounded : amount < 2 ^ 255) :
    pool.quoteExactOutAmountIn zeroForOne amount = .ok result ↔
      ∃ productive, OutputPath pool zeroForOne ⟨amount, 0, 0⟩ pool.start
        ⟨0, result, productive⟩ := by
  simp only [← sound.exactOutLoop_start_iff, quoteExactOutAmountIn, quoteExactOutAmountInImpl,
    require_of positive, require_of bounded, ok_bind, bind_eq_ok, require_eq_ok, pure_eq_ok,
    exists_const, true_and, if_true, not_not]
  constructor
  · rintro ⟨state, ran, none, rfl⟩
    refine ⟨state.preparedResultCapacity, state, ran, ?_⟩
    rw [ExactOut.totals, none]
  · rintro ⟨productive, state, ran, sums⟩
    exact ⟨state, ran, congrArg OutputTotals.remaining sums, congrArg OutputTotals.paid sums⟩

/-- The capacity is what its path had paid at the last leg that produced anything. -/
theorem Sound.exactOutputResultCapacityBounded_iff (positive : amount ≠ 0)
    (bounded : amount < 2 ^ 255) :
    pool.exactOutputResultCapacityBounded zeroForOne amount = .ok result ↔
      ∃ remaining paid, OutputPath pool zeroForOne ⟨amount, 0, 0⟩ pool.start
        ⟨remaining, paid, result⟩ := by
  simp only [← sound.exactOutLoop_start_iff, exactOutputResultCapacityBounded,
    quoteExactOutAmountInImpl, require_of positive, require_of bounded, ok_bind, bind_eq_ok,
    require_eq_ok, pure_eq_ok, exists_const, Bool.false_eq_true, false_and, not_false_eq_true,
    true_and, if_false]
  constructor
  · rintro ⟨state, ran, rfl⟩
    exact ⟨state.amountRemaining, state.amountIn, state, ran, rfl⟩
  · rintro ⟨remaining, paid, state, ran, sums⟩
    exact ⟨state, ran, congrArg OutputTotals.productive sums⟩

end

end Output

end ClmmPool

end PolyBot.Dex
