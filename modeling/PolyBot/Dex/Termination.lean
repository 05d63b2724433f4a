import PolyBot.Dex.Legs

/-!
# Every traversal ends

A round of a loop either uses up the amount it was given or reaches the next tick, so the ticks ahead
bound the rounds.  A loop then fails only where one of its checks does: not because a tick or a price
is missing, and not because it goes on forever.

* `ClmmPool.Sound.round`: what one round leaves.
* `ClmmPool.traversals_end_at_the_stops`: how many rounds each of the four loops makes.
* `ClmmPool.representation_and_traversal`: the bitmap, the map of ticks and the table of prices
  agree in every pool that calls can lead to, whatever is quoted on it.
-/

namespace PolyBot.Dex

open SwapMath FailsWith ClmmError

/-- The failures of a check: what a quote may return when nothing is missing. -/
def ClmmError.Expected : ClmmError → Prop
  | rejected _ => True
  | insufficientLiquidity => True
  | _ => False

/-- What a step has moved of the amount that was specified. -/
def PreparedQuoteKind.moved : PreparedQuoteKind → SwapStep → Nat
  | exactInput, step => step.amountIn + step.feeAmount
  | exactOutput, step => step.amountOut

namespace ClmmPool

section Rounds

variable {pool : ClmmPool} {zeroForOne : Bool} {walk next : Walk} {failure : String} {amount : Nat}

/-- A step on a leg: it stays on the leg, moves no more than the amount, and either reaches the end or
moves all of it. -/
structure OnLeg (pool : ClmmPool) (zeroForOne : Bool) (walk : Walk) (amount moved reached : Nat) :
    Prop where
  between : Between walk.sqrtPriceX96 (pool.target zeroForOne walk) reached
  le : moved ≤ amount
  ends : reached = pool.target zeroForOne walk ∨ moved = amount

theorem between_target (current target : Nat) : Between current target target := by
  refine ⟨towards_direction current target, ?_⟩
  unfold Towards
  split <;> exact le_rfl

/-- The step of a valid traversal does not fail. -/
theorem Sound.step (sound : pool.Sound) (valid : walk.Valid zeroForOne) (kind : PreparedQuoteKind)
    (positive : amount ≠ 0) (bounded : amount < 2 ^ 255) :
    ∃ step, computeSwapStep walk.sqrtPriceX96 (pool.target zeroForOne walk) walk.liquidity
        (kind.signed amount) (pool.feePipsForDirection zeroForOne) = some step ∧
      OnLeg pool zeroForOne walk amount (kind.moved step) step.sqrtRatioNext := by
  have priced := valid.priced pool
  have fee_lt : pool.feePipsForDirection zeroForOne < 1000000 := sound.fee_lt
  cases kind with
  | exactInput =>
    by_cases covers : pool.legCost zeroForOne walk ≤ amount
    · refine ⟨_, computeSwapStep_input_full priced fee_lt (by omega) covers, ?_⟩
      exact ⟨between_target _ _, covers, Or.inl rfl⟩
    · obtain ⟨step, computed, part⟩ :=
        computeSwapStep_input_part priced fee_lt (by omega) (Nat.not_le.mp covers)
      exact ⟨step, computed, ⟨part.forward, part.short⟩, part.spent.le, Or.inr part.spent⟩
  | exactOutput =>
    have nonzero : 0 < amount := Nat.pos_of_ne_zero positive
    by_cases covers : pool.legOutput zeroForOne walk ≤ amount
    · refine ⟨_, computeSwapStep_output_full priced fee_lt nonzero covers, ?_⟩
      exact ⟨between_target _ _, covers, Or.inl rfl⟩
    · have less := Nat.not_le.mp covers
      obtain ⟨step, computed, reached, produced, -⟩ :=
        computeSwapStep_output_part priced fee_lt nonzero less
      obtain ⟨-, forward, short, -, -⟩ := getNextSqrtPriceFromOutput_eq priced less
      exact ⟨step, computed, ⟨reached ▸ forward, reached ▸ short⟩, produced.le, Or.inr produced⟩

/-- The rounds that are left at most. -/
def roundsLeft (zeroForOne : Bool) (remaining : Nat) (walk : Walk) : Nat :=
  if remaining = 0 then 0 else ticksAhead zeroForOne walk

theorem ticksAhead_pos (valid : walk.Valid zeroForOne) : 0 < ticksAhead zeroForOne walk := by
  have low := valid.tickLow
  have high := valid.tickHigh
  unfold ticksAhead
  split <;> omega

theorem roundsLeft_lt (valid : walk.Valid zeroForOne) (remaining : Nat) :
    roundsLeft zeroForOne remaining walk < traversalRounds := by
  have low := valid.tickLow
  have high := valid.tickHigh
  unfold roundsLeft ticksAhead traversalRounds minTick maxTick at *
  split_ifs <;> omega

/-- The rounds that are left at most, by the stops ahead. -/
noncomputable def stopsLeft (pool : ClmmPool) (zeroForOne : Bool) (remaining : Nat) (walk : Walk) : Nat :=
  if remaining = 0 then 0 else pool.roundsAhead zeroForOne walk.tick

/-- What one round leaves behind a boundary. -/
theorem Sound.round (sound : pool.Sound) (valid : walk.Valid zeroForOne) {moved : Nat}
    (positive : amount ≠ 0)
    (onLeg : OnLeg pool zeroForOne walk amount moved
      (pool.boundaryAt zeroForOne walk.tick).sqrtPriceNextX96)
    (crossed : pool.behind zeroForOne failure walk = .ok next) :
    next.Valid zeroForOne ∧
      roundsLeft zeroForOne (amount - moved) next < roundsLeft zeroForOne amount walk ∧
      pool.stopsLeft zeroForOne (amount - moved) next < pool.stopsLeft zeroForOne amount walk := by
  refine ⟨valid_behind valid onLeg.between crossed, ?_⟩
  have ahead := ticksAhead_pos valid
  simp only [roundsLeft, stopsLeft, if_neg positive]
  rcases onLeg.ends with atEnd | all
  · have fewer := sound.progress valid atEnd.symm crossed
    have stops := sound.fewer_stops valid atEnd.symm crossed
    split <;> omega
  · rw [if_pos (by omega), if_pos (by omega)]
    exact ⟨ahead, Nat.succ_pos _⟩

end Rounds

/-! ## The four loops -/

section Loops

variable {pool : ClmmPool} {zeroForOne : Bool}

section

variable (sound : pool.Sound)
include sound

variable {failure : String} {walk : Walk}

theorem Sound.failsWith_cross :
    FailsWith Expected (pool.cross zeroForOne failure walk.liquidity
      (pool.boundaryAt zeroForOne walk.tick)) :=
  sound.failsWith_behind fun _ => trivial

theorem Sound.failsWith_exactIn (includeAfterState : Bool) (state : ExactIn) :
    FailsWith Expected
      (ExactIn.body pool includeAfterState zeroForOne state) := by
  unfold ExactIn.body ExactIn.toBoundary
  rw [sound.nextBoundary_eq, ok_bind]
  iterate 4 refine bind (failsWith_orError trivial) fun _ _ => ?_
  split
  · exact bind sound.failsWith_cross fun _ _ => failsWith_pure _
  · refine bind ?_ fun _ _ => failsWith_pure _
    unfold tickAfterPartial
    split
    · exact failsWith_orError trivial
    · exact failsWith_ok _

theorem Sound.failsWith_exactOut (state : ExactOut) :
    FailsWith Expected (ExactOut.body pool zeroForOne state) := by
  unfold ExactOut.body
  rw [sound.nextBoundary_eq, ok_bind]
  iterate 3 refine bind (failsWith_orError trivial) fun _ _ => ?_
  split
  · exact bind sound.failsWith_cross fun _ _ => failsWith_pure _
  · exact failsWith_pure _

theorem Sound.failsWith_building (kind : PreparedQuoteKind) (maximumSpecified : Nat)
    (state : Building) :
    FailsWith Expected (Building.body pool zeroForOne kind maximumSpecified state) := by
  unfold Building.body
  simp only [sound.nextBoundary_eq, ok_bind]
  iterate 5 refine bind (failsWith_orError trivial) fun _ _ => ?_
  split
  · exact bind sound.failsWith_cross fun _ _ => failsWith_pure _
  · exact failsWith_pure _

theorem Sound.failsWith_fusing (state : Fusing) :
    FailsWith Expected (Fusing.body pool zeroForOne state) := by
  unfold Fusing.body
  rw [sound.nextBoundary_eq, ok_bind]
  iterate 2 refine bind (failsWith_orError trivial) fun _ _ => ?_
  refine bind ?_ fun amounts _ => ?_
  · unfold fusedAmounts
    split
    · iterate 2 refine bind (failsWith_orError trivial) fun _ _ => ?_
      exact failsWith_pure _
    · exact failsWith_ok _
  iterate 3 refine bind (failsWith_orError trivial) fun _ _ => ?_
  split
  · exact bind sound.failsWith_cross fun _ _ => failsWith_pure _
  · exact failsWith_pure _

/-- What a loop that has not ended keeps. -/
def Walking (zeroForOne : Bool) (remaining : Nat) (walk : Walk) : Prop :=
  walk.Valid zeroForOne ∧ remaining < 2 ^ 255

/-- What a round leaves that goes on. -/
def Onward (zeroForOne : Bool) (remaining : Nat) (walk : Walk) (left : Nat) (next : Walk) : Prop :=
  Walking zeroForOne left next ∧
    roundsLeft zeroForOne left next < roundsLeft zeroForOne remaining walk

/-- What a round leaves that goes on is also nearer to the last stop. -/
def Nearer (pool : ClmmPool) (zeroForOne : Bool) (remaining : Nat) (walk : Walk) (left : Nat)
    (next : Walk) : Prop :=
  Onward zeroForOne remaining walk left next ∧
    pool.stopsLeft zeroForOne left next < pool.stopsLeft zeroForOne remaining walk

/-- A round of a loop that goes on, from what all four have in common: it has crossed its boundary. -/
theorem Sound.goes {σ : Type} {remaining moved reached : Nat} {after : Walk → σ} {next : σ}
    {inside : Except ClmmError (ForInStep σ)} (walking : Walking zeroForOne remaining walk)
    (positive : remaining ≠ 0) (onLeg : OnLeg pool zeroForOne walk remaining moved reached)
    (ran : (if reached = (pool.boundaryAt zeroForOne walk.tick).sqrtPriceNextX96 then
        pool.cross zeroForOne failure walk.liquidity (pool.boundaryAt zeroForOne walk.tick) >>=
          fun behind => pure (.yield (after behind))
      else inside) = .ok (.yield next)) (stays : inside ≠ .ok (.yield next)) :
    ∃ behind, after behind = next ∧
      pool.Nearer zeroForOne remaining walk (remaining - moved) behind := by
  split at ran
  · rename_i atBoundary
    simp only [bind_eq_ok, pure_eq_ok, ForInStep.yield.injEq] at ran
    obtain ⟨behind, crossed, same⟩ := ran
    obtain ⟨valid, fewer, stops⟩ := sound.round walking.1 positive (atBoundary ▸ onLeg) crossed
    exact ⟨behind, same, ⟨⟨valid, lt_of_le_of_lt (Nat.sub_le ..) walking.2⟩, fewer⟩, stops⟩
  · exact absurd ran stays

theorem Sound.goes_exactIn {includeAfterState : Bool} {state next : ExactIn}
    (walking : Walking zeroForOne state.amountRemaining state.walk)
    (go : ExactIn.condition zeroForOne state = true)
    (ran : ExactIn.body pool includeAfterState zeroForOne state = .ok (.yield next)) :
    pool.Nearer zeroForOne state.amountRemaining state.walk next.amountRemaining next.walk := by
  simp only [ExactIn.condition, decide_eq_true_eq] at go
  obtain ⟨step, computed, onLeg⟩ := sound.step walking.1 .exactInput go.1 walking.2
  simp only [ExactIn.body, ExactIn.toBoundary, sound.nextBoundary_eq, ok_bind, bind_eq_ok, orError_eq_ok,
    checkedAdd_eq_some, checkedSub_eq_some] at ran
  obtain ⟨step', computed', consumed, ⟨-, rfl⟩, remaining, ⟨-, rfl⟩, amountOut, -, ran⟩ := ran
  cases computed.symm.trans computed'
  obtain ⟨behind, rfl, nearer⟩ := sound.goes walking go.1 onLeg ran (by simp)
  exact nearer

theorem Sound.goes_exactOut {state next : ExactOut}
    (walking : Walking zeroForOne state.amountRemaining state.walk)
    (go : ExactOut.condition zeroForOne state = true)
    (ran : ExactOut.body pool zeroForOne state = .ok (.yield next)) :
    pool.Nearer zeroForOne state.amountRemaining state.walk next.amountRemaining next.walk := by
  simp only [ExactOut.condition, decide_eq_true_eq] at go
  obtain ⟨step, computed, onLeg⟩ := sound.step walking.1 .exactOutput go.1 walking.2
  simp only [ExactOut.body, sound.nextBoundary_eq, ok_bind, bind_eq_ok, orError_eq_ok,
    checkedSub_eq_some] at ran
  obtain ⟨step', computed', remaining, ⟨-, rfl⟩, amountIn, -, ran⟩ := ran
  cases computed.symm.trans computed'
  obtain ⟨behind, rfl, nearer⟩ := sound.goes walking go.1 onLeg ran (by simp)
  exact nearer

theorem Sound.goes_building {kind : PreparedQuoteKind} {maximumSpecified : Nat}
    {state next : Building}
    (walking : Walking zeroForOne (maximumSpecified - state.specifiedTotal) state.walk)
    (go : Building.condition zeroForOne maximumSpecified state = true)
    (ran : Building.body pool zeroForOne kind maximumSpecified state = .ok (.yield next)) :
    pool.Nearer zeroForOne (maximumSpecified - state.specifiedTotal) state.walk
      (maximumSpecified - next.specifiedTotal) next.walk := by
  simp only [Building.condition, decide_eq_true_eq] at go
  have positive : maximumSpecified - state.specifiedTotal ≠ 0 := by omega
  obtain ⟨step, computed, onLeg⟩ := sound.step walking.1 kind positive walking.2
  simp only [Building.body, sound.nextBoundary_eq, ok_bind, bind_eq_ok, orError_eq_ok,
    checkedAdd_eq_some, checkedSub_eq_some] at ran
  obtain ⟨remaining, ⟨-, rfl⟩, step', computed', inputWithFee, ⟨-, rfl⟩, specifiedEnd, ⟨-, rfl⟩,
    resultEnd, -, ran⟩ := ran
  cases computed.symm.trans computed'
  have moved : (kind.amounts (step.amountIn + step.feeAmount) step.amountOut).1 = kind.moved step := by
    cases kind <;> rfl
  obtain ⟨behind, rfl, nearer⟩ := sound.goes walking positive onLeg ran (by simp)
  rw [Nat.sub_sub, ← moved] at nearer
  exact nearer

theorem Sound.goes_fusing {state next : Fusing}
    (walking : Walking zeroForOne state.resultRemaining state.walk)
    (go : Fusing.condition zeroForOne state = true)
    (ran : Fusing.body pool zeroForOne state = .ok (.yield next)) :
    pool.Nearer zeroForOne state.resultRemaining state.walk next.resultRemaining next.walk := by
  simp only [Fusing.condition, decide_eq_true_eq] at go
  obtain ⟨step, computed, onLeg⟩ := sound.step walking.1 .exactOutput go.1 walking.2
  simp only [Fusing.body, sound.nextBoundary_eq, ok_bind, bind_eq_ok, orError_eq_ok,
    checkedSub_eq_some] at ran
  obtain ⟨step', computed', inputWithFee, -, amounts, -, specifiedEnd, -, resultEnd, -, remaining,
    ⟨-, rfl⟩, ran⟩ := ran
  cases computed.symm.trans computed'
  obtain ⟨behind, rfl, nearer⟩ := sound.goes walking go.1 onLeg ran (by simp)
  exact nearer

end

section

variable {σ : Type} {condition : σ → Bool} {body : σ → Except ClmmError (ForInStep σ)}
  (remaining : σ → Nat) (walk : σ → Walk) (fails : ∀ state, FailsWith Expected (body state))
  (goes : ∀ {state next}, Walking zeroForOne (remaining state) (walk state) →
    condition state = true → body state = .ok (.yield next) →
    pool.Nearer zeroForOne (remaining state) (walk state) (remaining next) (walk next))
  {state : σ} (walking : Walking zeroForOne (remaining state) (walk state))

include fails goes walking

/-- A loop whose rounds go onward fails only as its body does. -/
theorem failsWith_walking :
    FailsWith Expected (whileLoop .diverged condition body traversalRounds state) :=
  failsWith_whileLoop (I := fun state => Walking zeroForOne (remaining state) (walk state))
    (fun state => roundsLeft zeroForOne (remaining state) (walk state))
    (fun state _ _ => fails state) (fun _ _ walking go ran => (goes walking go ran).1) walking
    (roundsLeft_lt walking.1 _)

/-- Its rounds are no more than the stops ahead and one. -/
theorem endsWithin_walking (moves : ∀ state, condition state = true → remaining state ≠ 0) :
    EndsWithin .diverged condition body state
      (pool.roundsAhead zeroForOne (walk state).tick) := by
  have ends : EndsWithin diverged condition body state _ := endsWithin
    (I := fun state => Walking zeroForOne (remaining state) (walk state))
    (fun state => pool.stopsLeft zeroForOne (remaining state) (walk state))
    (fun state _ _ => fails state)
    (fun _ _ walking go ran => ⟨(goes walking go ran).1.1, (goes walking go ran).2⟩) walking
    (fun state go => by rw [stopsLeft, if_neg (moves state go)]; exact Nat.succ_pos _) not_false
  refine ends.mono ?_
  rw [stopsLeft]
  split
  · exact Nat.zero_le _
  · exact le_rfl

end

/-- The two checks that every quote starts with. -/
theorem failsWith_checked {α : Type} {positive bounded : Prop} [Decidable positive]
    [Decidable bounded] {message message' : String} {rest : Unit → Except ClmmError α}
    (fails : bounded → FailsWith Expected (rest ())) :
    FailsWith Expected (require positive (.rejected message) >>= fun _ =>
      require bounded (.rejected message') >>= rest) := by
  refine bind (failsWith_require trivial) fun _ _ => ?_
  exact bind (failsWith_require trivial) fun _ holds => fails (require_eq_ok.mp holds)

/-- A quote or a curve answers with the message of a check. -/
def Rejected {α : Type} (x : Except ClmmError α) : Prop :=
  ∃ message, x = .error (.rejected message)

theorem rejected_checked {α : Type} {positive bounded : Prop} [Decidable positive]
    [Decidable bounded] {message message' : String} {rest : Unit → Except ClmmError α}
    (large : ¬ bounded) :
    Rejected (require positive (.rejected message) >>= fun _ =>
      require bounded (.rejected message') >>= rest) := by
  rw [require, require, if_neg large]
  split
  · exact ⟨message', rfl⟩
  · exact ⟨message, rfl⟩

/-- Every failure of a quote or a curve of the amount is an `E`. -/
def QuotesFailWith (E : ClmmError → Prop) (pool : ClmmPool) (zeroForOne : Bool) (amount : Nat) :
    Prop :=
  (∀ includeAfterState, FailsWith E
    (pool.quoteExactInImpl includeAfterState zeroForOne amount)) ∧
  (∀ requireFullOutput, FailsWith E
    (pool.quoteExactOutAmountInImpl zeroForOne amount requireFullOutput)) ∧
  (∀ kind previous, FailsWith E
    (pool.prepareQuoteCurveReusing zeroForOne kind amount previous)) ∧
  ∀ previous, FailsWith E
    (pool.prepareExactInputCurveBoundedByExactOutputReusing zeroForOne amount previous)

/-- Every quote and every curve fails only where one of its checks does. -/
theorem Sound.failsWith_quotes (sound : pool.Sound) (amount : Nat) :
    QuotesFailWith Expected pool zeroForOne amount := by
  have valid : pool.start.Valid zeroForOne := sound.valid_start
  refine ⟨?_, ?_, ?_, ?_⟩
  · intro includeAfterState
    refine failsWith_checked fun bounded => bind (failsWith_walking (·.amountRemaining) (·.walk)
      (sound.failsWith_exactIn _) sound.goes_exactIn ⟨valid, bounded⟩) fun final _ => ?_
    exact bind (failsWith_require trivial) fun _ _ => failsWith_pure _
  · intro requireFullOutput
    refine failsWith_checked fun bounded => bind (failsWith_walking (·.amountRemaining) (·.walk)
      sound.failsWith_exactOut sound.goes_exactOut ⟨valid, bounded⟩) fun final _ => ?_
    exact bind (failsWith_require trivial) fun _ _ => failsWith_pure _
  · intro kind previous
    exact failsWith_checked fun bounded => bind (failsWith_walking (amount - ·.specifiedTotal)
      (·.walk) (sound.failsWith_building kind amount) sound.goes_building ⟨valid, bounded⟩)
      fun _ _ => failsWith_pure _
  · intro previous
    exact failsWith_checked fun bounded => bind (failsWith_walking (·.resultRemaining) (·.walk)
      sound.failsWith_fusing sound.goes_fusing ⟨valid, bounded⟩) fun _ _ => failsWith_pure _

end Loops

/-! ## Reachable pools -/

/-- The bitmap, the map of ticks and the table of prices agree in every pool that calls can lead to.
A bit is set exactly where the map holds a tick, which has gross liquidity.  A search passes over no
tick, says truly whether the map holds what it returns, except to a search that starts at the end of
the raw layout, and names a price of the table where it returns no tick.  So no quote and no curve
fails because a tick or a price is missing, and none goes on forever.  The spacing is an `int24`, as in
the contracts, so that the `i32` search of the code is this search wherever a traversal can stand. -/
theorem representation_and_traversal {pool : ClmmPool} (reachable : pool.Reachable)
    (int24 : pool.tickSpacing < 2 ^ 23) :
    (∀ tick zeroForOne, minTick - 1 ≤ tick → tick ≤ maxTick →
      pool.nextInitializedTickI32 tick zeroForOne = pool.nextInitializedTick tick zeroForOne) ∧
    (∀ (word : Int) (bit : Nat), bit < 256 →
      ((TickBitmap.row pool.tickBitmap word).testBit bit = true ↔
        ∃ state, pool.ticks[(word * 256 + bit) * pool.scale]? = some state ∧ state.gross ≠ 0)) ∧
    (∀ tick ∈ pool.ticks, ∃ (word : Int) (bit : Nat), bit < 256 ∧
      tick = (word * 256 + bit) * pool.scale) ∧
    (∀ tick zeroForOne, minTick ≤ tick → tick ≤ maxTick →
      (∀ other ∈ pool.ticks,
        ¬ Passed zeroForOne tick (pool.nextInitializedTick tick zeroForOne).1 other) ∧
      ((pool.nextInitializedTick tick zeroForOne).2 = true ↔
        (pool.nextInitializedTick tick zeroForOne).1 ∈ pool.ticks ∧
          ¬ (pool.tickTraversal = .algebraRaw ∧ zeroForOne = false ∧ tick = maxTick)) ∧
      ((pool.nextInitializedTick tick zeroForOne).2 = false →
        ∃ ratio, pool.wordBoundarySqrtRatio
          (clampTick (pool.nextInitializedTick tick zeroForOne).1) = some ratio)) ∧
    ∀ zeroForOne amount, QuotesFailWith Expected pool zeroForOne amount := by
  have sound := reachable.sound
  refine ⟨fun tick zeroForOne => sound.nextInitializedTickI32_eq int24, ?_, ?_, ?_,
    fun zeroForOne amount => sound.failsWith_quotes amount⟩
  · intro word bit below
    rw [← TickBitmap.marked_of_bit below, sound.marks, Std.TreeMap.mem_iff_isSome_getElem?,
      Option.isSome_iff_exists]
    constructor
    · rintro ⟨state, held⟩
      exact ⟨state, held, sound.funded _ state held⟩
    · rintro ⟨state, held, -⟩
      exact ⟨state, held⟩
  · intro tick mem
    refine ⟨tick / pool.scale / 256, (tick / pool.scale % 256).toNat, by omega, ?_⟩
    have index : tick / pool.scale / 256 * 256 + ((tick / pool.scale % 256).toNat : Int) =
        tick / pool.scale := by omega
    rw [index, Int.ediv_mul_cancel (sound.aligned tick mem)]
  · intro tick zeroForOne low high
    refine ⟨fun other mem => sound.next_passed ⟨low, high⟩ mem, sound.next_flag ⟨low, high⟩, ?_⟩
    intro uninitialized
    obtain ⟨low', high'⟩ := clampTick_range (pool.nextInitializedTick tick zeroForOne).1
    rw [wordBoundarySqrtRatio, if_pos (sound.cached uninitialized)]
    exact TickMath.getSqrtRatioAtTick_isSome low' high'

/-- In every pool that calls can lead to, each of the four loops ends: it makes at most one round for
each initialized tick and each end of a word between the pool's tick and the end of the range, and one
more.  An amount that does not fit the loop is rejected before it.  For the spacings of an `int24` the
`i32` search of the code is the loops' search wherever they can stand. -/
theorem traversals_end_at_the_stops {pool : ClmmPool} (reachable : pool.Reachable)
    (int24 : pool.tickSpacing < 2 ^ 23) (zeroForOne : Bool) (amount : Nat) :
    (∀ tick, minTick - 1 ≤ tick → tick ≤ maxTick →
      pool.nextInitializedTickI32 tick zeroForOne = pool.nextInitializedTick tick zeroForOne) ∧
    (amount < 2 ^ 255 →
      (∀ includeAfterState, EndsWithin diverged (ExactIn.condition zeroForOne)
        (ExactIn.body pool includeAfterState zeroForOne) ⟨amount, 0, pool.start, 0⟩
        (pool.roundsAhead zeroForOne pool.tick)) ∧
      EndsWithin diverged (ExactOut.condition zeroForOne) (ExactOut.body pool zeroForOne)
        ⟨amount, 0, 0, pool.start⟩ (pool.roundsAhead zeroForOne pool.tick) ∧
      (∀ kind previous, EndsWithin diverged (Building.condition zeroForOne amount)
        (Building.body pool zeroForOne kind amount) ⟨0, 0, clearedSegments previous, pool.start⟩
        (pool.roundsAhead zeroForOne pool.tick)) ∧
      ∀ previous, EndsWithin diverged (Fusing.condition zeroForOne) (Fusing.body pool zeroForOne)
        ⟨0, 0, amount, clearedSegments previous, 0, pool.start⟩
        (pool.roundsAhead zeroForOne pool.tick)) ∧
    (¬ amount < 2 ^ 255 → ∀ includeAfterState requireFullOutput kind previous,
      Rejected (pool.quoteExactInImpl includeAfterState zeroForOne amount) ∧
      Rejected (pool.quoteExactOutAmountInImpl zeroForOne amount requireFullOutput) ∧
      Rejected (pool.prepareQuoteCurveReusing zeroForOne kind amount previous) ∧
      Rejected (pool.prepareExactInputCurveBoundedByExactOutputReusing zeroForOne amount previous)) := by
  have sound := reachable.sound
  refine ⟨fun tick => sound.nextInitializedTickI32_eq int24, fun bounded => ?_,
    fun large _ _ _ _ => ⟨rejected_checked large, rejected_checked large, rejected_checked large,
      rejected_checked large⟩⟩
  have walking : Walking zeroForOne amount pool.start := ⟨sound.valid_start, bounded⟩
  refine ⟨fun includeAfterState => ?_, ?_, fun kind previous => ?_, fun previous => ?_⟩
  · refine endsWithin_walking ExactIn.amountRemaining ExactIn.walk (sound.failsWith_exactIn _)
      sound.goes_exactIn walking fun state go => ?_
    simp only [ExactIn.condition, decide_eq_true_eq] at go
    exact go.1
  · refine endsWithin_walking ExactOut.amountRemaining ExactOut.walk sound.failsWith_exactOut
      sound.goes_exactOut walking fun state go => ?_
    simp only [ExactOut.condition, decide_eq_true_eq] at go
    exact go.1
  · refine endsWithin_walking (amount - Building.specifiedTotal ·) Building.walk
      (sound.failsWith_building kind amount) sound.goes_building walking fun state go => ?_
    simp only [Building.condition, decide_eq_true_eq] at go
    omega
  · refine endsWithin_walking Fusing.resultRemaining Fusing.walk sound.failsWith_fusing
      sound.goes_fusing walking fun state go => ?_
    simp only [Fusing.condition, decide_eq_true_eq] at go
    exact go.1

/-- A Camelot pool whose last tick is initialized. -/
def toTheLastTick : ClmmPool :=
  ClmmPool.after ⟨117, 219, 8, 2 ^ 96, 0, 1000, ∅, ∅, .algebraRaw, .algebraDirectional⟩
    (.setTick maxTick 100 100)

theorem toTheLastTick_reachable : toTheLastTick.Reachable := by
  have built : ClmmPool.newAlgebraV19 117 219 8 (2 ^ 96) 0 1000 =
      .ok ⟨117, 219, 8, 2 ^ 96, 0, 1000, ∅, ∅, .algebraRaw, .algebraDirectional⟩ := rfl
  exact .after (.newAlgebraV19 (by norm_num) built) trivial

theorem no_quote_past_the_last_tick_lacks_a_price :
    FailsWith Expected (toTheLastTick.quoteExactInImpl true false 1000000) :=
  ((representation_and_traversal toTheLastTick_reachable (by decide +kernel)).2.2.2.2 false
    1000000).1 true

theorem quotes_end_before_the_last_tick :
    toTheLastTick.Reachable ∧ EndsWithin diverged (ExactOut.condition false)
      (ExactOut.body toTheLastTick false) ⟨1000000, 0, 0, toTheLastTick.start⟩
      (toTheLastTick.roundsAhead false toTheLastTick.tick) :=
  ⟨toTheLastTick_reachable,
    ((traversals_end_at_the_stops toTheLastTick_reachable (by decide +kernel) false 1000000).2.1
      (by norm_num)).2.1⟩

/-- A pool with a spacing that no contract has, but the constructor takes. -/
def pastInt24 : ClmmPool :=
  (fresh 3000 (2 ^ 24) (2 ^ 96 - 1) (-1) 1000).after (.setTick 0 100 100)

theorem pastInt24_reachable : pastInt24.Reachable :=
  .after (.fresh (by norm_num) rfl) trivial

/-- The raw layout clamps its result: from the last tick up it returns that tick, which the map
holds, as uninitialized.  Past an `int24` the search down wraps to a tick above, which the map holds
too. -/
theorem last_tick_is_reported_uninitialized :
    (toTheLastTick.Reachable ∧ maxTick ∈ toTheLastTick.ticks ∧
      toTheLastTick.nextInitializedTickI32 maxTick false = (maxTick, false)) ∧
    pastInt24.Reachable ∧ 0 ∈ pastInt24.ticks ∧
      pastInt24.nextInitializedTickI32 (-1) true = (0, false) :=
  ⟨⟨toTheLastTick_reachable, by decide +kernel, by decide +kernel⟩, pastInt24_reachable,
    by decide +kernel, by decide +kernel⟩

/-- A round of the exact-input loop with the `i32` search. -/
def ExactIn.bodyI32 (pool : ClmmPool) (includeAfterState zeroForOne : Bool) (state : ExactIn) :
    Except ClmmError (ForInStep ExactIn) := do
  let boundary ←
    pool.boundaryFound zeroForOne (pool.nextInitializedTickI32 state.walk.tick zeroForOne)
  ExactIn.toBoundary pool includeAfterState zeroForOne state boundary

/-- Going down from tick `-1` the wrapped search answers 0.  The price rises to that of tick 0, the
tick is `-1` again, and the next round finds the same boundary at no cost. -/
theorem wrapped_search_never_ends :
    pastInt24.Reachable ∧ ¬ ∃ bound, EndsWithin diverged (ExactIn.condition true)
      (ExactIn.bodyI32 pastInt24 true true) ⟨1000, 0, pastInt24.start, 0⟩ bound := by
  have found : pastInt24.boundaryFound true (pastInt24.nextInitializedTickI32 (-1) true) =
      .ok ⟨0, false, 2 ^ 96, 2 ^ 96⟩ := by decide +kernel
  have fee : pastInt24.feePipsForDirection true = 3000 := by decide +kernel
  have rises : SwapMath.computeSwapStep (2 ^ 96 - 1) (2 ^ 96) 1000 1000 3000 =
      some ⟨2 ^ 96, 1, 0, 1⟩ := by decide +kernel
  have stays : SwapMath.computeSwapStep (2 ^ 96) (2 ^ 96) 1000 998 3000 =
      some ⟨2 ^ 96, 0, 0, 0⟩ := by decide +kernel
  have first : ExactIn.bodyI32 pastInt24 true true ⟨1000, 0, ⟨2 ^ 96 - 1, -1, 1000⟩, 0⟩ =
      .ok (.yield ⟨998, 0, ⟨2 ^ 96, -1, 1000⟩, 0⟩) := by
    rw [ExactIn.bodyI32, found, ok_bind, ExactIn.toBoundary]
    simp only [fee, Nat.cast_ofNat, rises]
    rfl
  have stuck : ExactIn.bodyI32 pastInt24 true true ⟨998, 0, ⟨2 ^ 96, -1, 1000⟩, 0⟩ =
      .ok (.yield ⟨998, 0, ⟨2 ^ 96, -1, 1000⟩, 0⟩) := by
    rw [ExactIn.bodyI32, found, ok_bind, ExactIn.toBoundary]
    simp only [fee, Nat.cast_ofNat, stays]
    rfl
  refine ⟨pastInt24_reachable, ?_⟩
  rintro ⟨bound, ends⟩
  exact not_endsWithin bound (by decide +kernel) first (by decide +kernel) stuck ends

end ClmmPool

end PolyBot.Dex
