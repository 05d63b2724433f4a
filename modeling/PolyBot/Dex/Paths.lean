import PolyBot.Dex.Termination

/-!
# Paths

The abstract meaning of the loops: relations over the legs of a traversal, without a bound on the
rounds, without widths and without the messages of failures.  A quote is a path of whole legs that
ends inside a leg or at its end.

* `ClmmPool.Sound.quoteExactInAmountOut_iff`: the quote of an exact input is exactly its path.
-/

namespace PolyBot.Dex

open SwapMath

namespace ClmmPool

/-- What is behind the boundary of a leg, if it can be crossed. -/
def beyond (pool : ClmmPool) (zeroForOne : Bool) (walk : Walk) : Option Walk :=
  (pool.behind zeroForOne "" walk).toOption

section Beyond

variable {pool : ClmmPool} {zeroForOne : Bool} {walk next : Walk} {failure : String}

theorem behind_of_beyond (crossed : pool.beyond zeroForOne walk = some next) :
    pool.behind zeroForOne "" walk = .ok next := by
  unfold beyond at crossed
  rcases found : pool.behind zeroForOne "" walk with e | found
  · rw [found] at crossed
    cases crossed
  · rw [found] at crossed
    cases crossed
    rfl

theorem beyond_eq_some : pool.beyond zeroForOne walk = some next ↔
    pool.behind zeroForOne failure walk = .ok next := by
  constructor
  · intro crossed
    exact behind_eq_ok_iff.mp (behind_of_beyond crossed)
  · intro crossed
    have same : pool.behind zeroForOne "" walk = .ok next := behind_eq_ok_iff.mp crossed
    rw [beyond, same]
    rfl

theorem beyond_eq_none (failure : String) (blocked : pool.beyond zeroForOne walk = none) :
    ∃ e, pool.behind zeroForOne failure walk = .error e := by
  rcases crossed : pool.behind zeroForOne failure walk with e | found
  · exact ⟨e, rfl⟩
  · rw [beyond_eq_some.mpr crossed] at blocked
    cases blocked

theorem beyond_price (active : walk.liquidity < 2 ^ 128)
    (crossed : pool.beyond zeroForOne walk = some next) :
    next.sqrtPriceX96 = (pool.boundaryAt zeroForOne walk.tick).sqrtPriceNextX96 :=
  (behind_spec active (behind_of_beyond crossed)).1

/-- The leg ends at a tick, and this is behind it. -/
structure Crosses (pool : ClmmPool) (zeroForOne : Bool) (walk next : Walk) : Prop where
  ends : pool.EndsAtTick zeroForOne walk
  beyond : pool.beyond zeroForOne walk = some next

theorem Crosses.valid (crosses : pool.Crosses zeroForOne walk next)
    (valid : walk.Valid zeroForOne) : next.Valid zeroForOne := by
  refine valid_behind valid ?_ (behind_of_beyond crosses.beyond)
  rw [← crosses.ends]
  exact between_target _ _

/-- The step of an exact input on a leg. -/
def inputStep (pool : ClmmPool) (zeroForOne : Bool) (walk : Walk) (amount : Nat) : Option SwapStep :=
  computeSwapStep walk.sqrtPriceX96 (pool.target zeroForOne walk) walk.liquidity amount
    (pool.feePipsForDirection zeroForOne)

/-- A price that is the boundary's can be crossed there. -/
def Passes (pool : ClmmPool) (zeroForOne : Bool) (walk : Walk) (reached : Nat) : Prop :=
  reached = (pool.boundaryAt zeroForOne walk.tick).sqrtPriceNextX96 →
    ∃ next, pool.beyond zeroForOne walk = some next

end Beyond

/-! ## The quote of an exact input -/

/-- The loop goes on: something remains, and the price is not at the limit. -/
structure Spends (zeroForOne : Bool) (remaining : Nat) (walk : Walk) : Prop where
  positive : remaining ≠ 0
  goes : walk.sqrtPriceX96 ≠ sqrtPriceLimitX96 zeroForOne

/-- The paths of the quote of an exact input: what remains and what has come out at the start of the
leg, and what has come out at the end. -/
inductive InputPath (pool : ClmmPool) (zeroForOne : Bool) : Nat → Nat → Walk → Nat → Prop
  | spent {out : Nat} {walk : Walk} : InputPath pool zeroForOne 0 out walk out
  | leg {remaining out result : Nat} {walk next : Walk} (spends : Spends zeroForOne remaining walk)
      (covers : pool.legCost zeroForOne walk ≤ remaining)
      (crosses : pool.Crosses zeroForOne walk next)
      (rest : InputPath pool zeroForOne (remaining - pool.legCost zeroForOne walk)
        (out + pool.legOutput zeroForOne walk) next result) :
      InputPath pool zeroForOne remaining out walk result
  | limit {remaining out : Nat} {walk : Walk} (spends : Spends zeroForOne remaining walk)
      (covers : pool.legCost zeroForOne walk = remaining)
      (ends : ¬ pool.EndsAtTick zeroForOne walk) :
      InputPath pool zeroForOne remaining out walk (out + pool.legOutput zeroForOne walk)
  | part {remaining out : Nat} {walk : Walk} {step : SwapStep}
      (spends : Spends zeroForOne remaining walk)
      (less : remaining < pool.legCost zeroForOne walk)
      (computed : pool.inputStep zeroForOne walk remaining = some step)
      (passes : pool.Passes zeroForOne walk step.sqrtRatioNext) :
      InputPath pool zeroForOne remaining out walk (out + step.amountOut)

/-- A sum of outputs that all legs ahead cannot bring out of range. -/
def Roomy (zeroForOne : Bool) (walk : Walk) (total : Nat) : Prop :=
  total + (ticksAhead zeroForOne walk + 1) * 2 ^ 225 ≤ 2 ^ 250

section Input

variable {pool : ClmmPool} {zeroForOne : Bool} {walk next : Walk} {out remaining : Nat}
  {amount : Nat}

theorem Roomy.lt (roomy : Roomy zeroForOne walk out) (small : amount < 2 ^ 225) :
    out + amount < 2 ^ 256 := by
  unfold Roomy at roomy
  rw [Nat.add_mul] at roomy
  omega

theorem Roomy.beyond (sound : pool.Sound) (valid : walk.Valid zeroForOne)
    (roomy : Roomy zeroForOne walk out) (small : amount < 2 ^ 225)
    (crosses : pool.Crosses zeroForOne walk next) : Roomy zeroForOne next (out + amount) := by
  have fewer := sound.progress valid crosses.ends (behind_of_beyond crosses.beyond)
  unfold Roomy at *
  have grown : (ticksAhead zeroForOne next + 1 + 1) * 2 ^ 225 ≤
      (ticksAhead zeroForOne walk + 1) * 2 ^ 225 := Nat.mul_le_mul_right _ (by omega)
  rw [Nat.add_mul (ticksAhead zeroForOne next + 1)] at grown
  omega

theorem Sound.roomy_start (sound : pool.Sound) : Roomy zeroForOne pool.start 0 := by
  have few : roundsLeft zeroForOne 1 pool.start < traversalRounds := roundsLeft_lt sound.valid_start 1
  rw [roundsLeft, if_neg one_ne_zero] at few
  have rounds : traversalRounds = 1774547 := by decide
  have grown : (ticksAhead zeroForOne pool.start + 1) * 2 ^ 225 ≤ 1774547 * 2 ^ 225 :=
    Nat.mul_le_mul_right _ (by omega)
  unfold Roomy
  omega

section Round

variable {step : SwapStep}
  (computed : pool.inputStep zeroForOne walk remaining = some step)
  (le : step.amountIn + step.feeAmount ≤ remaining) (bounded : remaining < 2 ^ 255)
  (fits : out + step.amountOut < 2 ^ 256)

include computed le bounded fits

/-- One round of the loop, given what its step does. -/
theorem Sound.exactIn_body (sound : pool.Sound) (crossed : Nat) :
    ExactIn.body pool false zeroForOne ⟨remaining, out, walk, crossed⟩ =
      if step.sqrtRatioNext = (pool.boundaryAt zeroForOne walk.tick).sqrtPriceNextX96 then
        pool.behind zeroForOne "failed to cross initialized tick" walk >>= fun next =>
          .ok (.yield ⟨remaining - (step.amountIn + step.feeAmount), out + step.amountOut, next,
            crossed + if (pool.boundaryAt zeroForOne walk.tick).initialized then 1 else 0⟩)
      else .ok (.done ⟨remaining - (step.amountIn + step.feeAmount), out + step.amountOut,
        ⟨step.sqrtRatioNext, walk.tick, walk.liquidity⟩, crossed⟩) := by
  have consumed : checkedAdd 256 step.amountIn step.feeAmount =
      some (step.amountIn + step.feeAmount) := checkedAdd_eq_some.mpr ⟨by omega, rfl⟩
  have left : checkedSub remaining (step.amountIn + step.feeAmount) =
      some (remaining - (step.amountIn + step.feeAmount)) := checkedSub_eq_some.mpr ⟨le, rfl⟩
  have produced : checkedAdd 256 out step.amountOut = some (out + step.amountOut) :=
    checkedAdd_eq_some.mpr ⟨fits, rfl⟩
  unfold inputStep at computed
  unfold ExactIn.body ExactIn.toBoundary
  simp only [sound.nextBoundary_eq, ok_bind]
  change (orError (computeSwapStep walk.sqrtPriceX96 (pool.target zeroForOne walk) walk.liquidity
    remaining (pool.feePipsForDirection zeroForOne)) _ >>= _) = _
  rw [computed]
  simp only [orError, ok_bind, consumed, left, produced]
  rfl

end Round

/-! One lemma for each way a path can go. -/

variable {result : Nat}

theorem inputPath_spent_iff : InputPath pool zeroForOne 0 out walk result ↔ result = out := by
  constructor
  · intro path
    cases path with
    | spent => rfl
    | leg spends | limit spends | part spends => exact absurd rfl spends.positive
  · rintro rfl
    exact .spent

theorem not_inputPath_of_limit (positive : remaining ≠ 0)
    (stops : walk.sqrtPriceX96 = sqrtPriceLimitX96 zeroForOne) :
    ¬ InputPath pool zeroForOne remaining out walk result := by
  intro path
  cases path with
  | spent => exact positive rfl
  | leg spends | limit spends | part spends => exact spends.goes stops

section Goes

variable (spends : Spends zeroForOne remaining walk)

include spends

variable {result : Nat}

theorem inputPath_leg_iff (covers : pool.legCost zeroForOne walk ≤ remaining)
    (ends : pool.EndsAtTick zeroForOne walk) :
    InputPath pool zeroForOne remaining out walk result ↔
      ∃ next, pool.beyond zeroForOne walk = some next ∧
        InputPath pool zeroForOne (remaining - pool.legCost zeroForOne walk)
          (out + pool.legOutput zeroForOne walk) next result := by
  constructor
  · intro path
    cases path with
    | spent => exact absurd rfl spends.positive
    | leg _ _ crosses rest => exact ⟨_, crosses.beyond, rest⟩
    | limit _ _ elsewhere => exact absurd ends elsewhere
    | part _ less => exact absurd covers (Nat.not_le.mpr less)
  · rintro ⟨next, crossed, rest⟩
    exact .leg spends covers ⟨ends, crossed⟩ rest

theorem inputPath_limit_iff (covers : pool.legCost zeroForOne walk ≤ remaining)
    (elsewhere : ¬ pool.EndsAtTick zeroForOne walk) :
    InputPath pool zeroForOne remaining out walk result ↔
      pool.legCost zeroForOne walk = remaining ∧
        result = out + pool.legOutput zeroForOne walk := by
  constructor
  · intro path
    cases path with
    | spent => exact absurd rfl spends.positive
    | leg _ _ crosses => exact absurd crosses.ends elsewhere
    | limit _ exact => exact ⟨exact, rfl⟩
    | part _ less => exact absurd covers (Nat.not_le.mpr less)
  · rintro ⟨exact, rfl⟩
    exact .limit spends exact elsewhere

theorem inputPath_part_iff {step : SwapStep} (less : remaining < pool.legCost zeroForOne walk)
    (computed : pool.inputStep zeroForOne walk remaining = some step) :
    InputPath pool zeroForOne remaining out walk result ↔
      pool.Passes zeroForOne walk step.sqrtRatioNext ∧ result = out + step.amountOut := by
  constructor
  · intro path
    cases path with
    | spent => exact absurd rfl spends.positive
    | leg _ covers => exact absurd covers (Nat.not_le.mpr less)
    | limit _ exact => exact absurd exact.le (Nat.not_le.mpr less)
    | part _ _ computed' passes =>
      cases computed.symm.trans computed'
      exact ⟨passes, rfl⟩
  · rintro ⟨passes, rfl⟩
    exact .part spends less computed passes

end Goes

section

variable (sound : pool.Sound)
include sound

theorem Sound.inputStep_full (valid : walk.Valid zeroForOne)
    (bounded : remaining < 2 ^ 255) (covers : pool.legCost zeroForOne walk ≤ remaining) :
    ∃ step, pool.inputStep zeroForOne walk remaining = some step ∧
      step.sqrtRatioNext = pool.target zeroForOne walk ∧
      step.amountIn + step.feeAmount = pool.legCost zeroForOne walk ∧
      step.amountOut = pool.legOutput zeroForOne walk :=
  ⟨_, computeSwapStep_input_full (valid.priced pool) sound.fee_lt (by omega) covers, rfl, rfl, rfl⟩

theorem Sound.inputStep_part (valid : walk.Valid zeroForOne)
    (bounded : remaining < 2 ^ 255) (less : remaining < pool.legCost zeroForOne walk) :
    ∃ step, pool.inputStep zeroForOne walk remaining = some step ∧
      SpentPart walk.sqrtPriceX96 (pool.target zeroForOne walk) remaining step :=
  computeSwapStep_input_part (valid.priced pool) sound.fee_lt (by omega) less

/-- The loop ends with nothing left and with this output. -/
def ExactIn.Returns (result : Except ClmmError ExactIn) (amountOut : Nat) : Prop :=
  ∃ final, result = .ok final ∧ final.amountRemaining = 0 ∧ final.amountOut = amountOut

/-- A state that the loop can go on from. -/
def ExactIn.Ranged (zeroForOne : Bool) (state : ExactIn) : Prop :=
  state.amountRemaining ≠ 0 → state.walk.Valid zeroForOne ∧ state.amountRemaining < 2 ^ 255 ∧
    Roomy zeroForOne state.walk state.amountOut

/-- A round decides the path from where it starts. -/
theorem Sound.exactIn_decides (state : ExactIn)
    (ranged : state.Ranged zeroForOne) :
    RoundDecides (ExactIn.condition zeroForOne) (ExactIn.body pool false zeroForOne)
      (ExactIn.Ranged zeroForOne) (fun last => last.amountRemaining = 0 ∧ last.amountOut = result)
      (fun state => InputPath pool zeroForOne state.amountRemaining state.amountOut state.walk result)
      (fun state => roundsLeft zeroForOne state.amountRemaining state.walk) state := by
  obtain ⟨remaining, out, walk, count⟩ := state
  unfold RoundDecides
  by_cases go : ExactIn.condition zeroForOne ⟨remaining, out, walk, count⟩ = true
  case neg =>
    rw [if_neg go]
    simp only [ExactIn.condition, decide_eq_true_eq, not_and_or, not_not] at go
    by_cases zero : remaining = 0
    · subst zero
      simp [inputPath_spent_iff, eq_comm]
    · simp [zero, not_inputPath_of_limit zero (go.resolve_left zero)]
  case pos =>
    rw [if_pos go]
    simp only [ExactIn.condition, decide_eq_true_eq] at go
    have positive := go.1
    have spends : Spends zeroForOne remaining walk := ⟨positive, go.2⟩
    obtain ⟨valid, bounded, roomy⟩ := ranged positive
    dsimp only at valid bounded roomy ⊢
    by_cases covers : pool.legCost zeroForOne walk ≤ remaining
    · obtain ⟨step, computed, reached, moved, produced⟩ := sound.inputStep_full valid bounded covers
      have small : pool.legOutput zeroForOne walk < 2 ^ 225 := fullOutput_lt (valid.priced pool)
      rw [sound.exactIn_body computed (moved ▸ covers) bounded (roomy.lt (produced ▸ small)), moved,
        produced]
      by_cases ends : pool.EndsAtTick zeroForOne walk
      · rw [if_pos (reached.trans ends), inputPath_leg_iff spends covers ends]
        rcases crossing : pool.beyond zeroForOne walk with _ | next
        · obtain ⟨e, failed⟩ := beyond_eq_none _ crossing
          rw [failed]
          rintro ⟨_, ⟨⟩, _⟩
        · have onLeg : OnLeg pool zeroForOne walk remaining (pool.legCost zeroForOne walk)
              (pool.boundaryAt zeroForOne walk.tick).sqrtPriceNextX96 :=
            ⟨ends ▸ between_target _ _, covers, Or.inl ends.symm⟩
          obtain ⟨valid', fewer, -⟩ := sound.round valid positive onLeg (behind_of_beyond crossing)
          rw [beyond_eq_some.mp crossing, ok_bind]
          exact ⟨fun _ => ⟨valid', by dsimp only; omega, roomy.beyond sound valid small ⟨ends, crossing⟩⟩,
            fewer, by simp⟩
      · rw [if_neg fun same => ends (reached.symm.trans same),
          inputPath_limit_iff spends covers ends]
        dsimp only
        rw [eq_comm (a := result)]
        exact and_congr_left' (by omega)
    · have less := Nat.not_le.mp covers
      obtain ⟨step, computed, part⟩ := sound.inputStep_part valid bounded less
      rw [sound.exactIn_body computed part.spent.le bounded (roomy.lt part.output_lt), part.spent,
        Nat.sub_self, inputPath_part_iff spends less computed]
      by_cases meets : step.sqrtRatioNext = (pool.boundaryAt zeroForOne walk.tick).sqrtPriceNextX96
      · rw [if_pos meets]
        rcases crossing : pool.beyond zeroForOne walk with _ | next
        · obtain ⟨e, failed⟩ := beyond_eq_none _ crossing
          rw [failed]
          rintro ⟨passes, -⟩
          cases crossing.symm.trans (passes meets).choose_spec
        · -- nothing is left, so the next round is the last
          have ahead := ticksAhead_pos valid
          rw [beyond_eq_some.mp crossing, ok_bind]
          refine ⟨fun left => absurd rfl left, by simpa [roundsLeft, positive] using ahead, ?_⟩
          simp [inputPath_spent_iff, Passes, crossing]
      · rw [if_neg meets]
        simp [Passes, meets, eq_comm]

/-- The loop returns with nothing left exactly along the paths. -/
theorem Sound.exactInLoop_iff {rounds crossed : Nat}
    (valid : walk.Valid zeroForOne) (bounded : remaining < 2 ^ 255)
    (roomy : Roomy zeroForOne walk out) (enough : roundsLeft zeroForOne remaining walk < rounds) :
    ExactIn.Returns
        (pool.exactInLoop false zeroForOne rounds ⟨remaining, out, walk, crossed⟩) result ↔
      InputPath pool zeroForOne remaining out walk result :=
  whileLoop_iff sound.exactIn_decides (fun _ => ⟨valid, bounded, roomy⟩) enough

/-- The quote of an exact input is what its path yields. -/
theorem Sound.quoteExactInAmountOut_iff {amountIn : Nat}
    (positive : amountIn ≠ 0) (bounded : amountIn < 2 ^ 255) :
    pool.quoteExactInAmountOut zeroForOne amountIn = .ok result ↔
      InputPath pool zeroForOne amountIn 0 pool.start result := by
  have valid : pool.start.Valid zeroForOne := sound.valid_start
  have loop : ExactIn.Returns
      (pool.exactInLoop false zeroForOne traversalRounds ⟨amountIn, 0, pool.start, 0⟩) result ↔
      InputPath pool zeroForOne amountIn 0 pool.start result :=
    sound.exactInLoop_iff valid bounded sound.roomy_start (roundsLeft_lt valid _)
  rw [← loop]
  simp only [quoteExactInAmountOut, quoteExactInImpl, require_of positive, require_of bounded,
    ok_bind, bind_eq_ok, require_eq_ok, pure_eq_ok, exists_const]
  constructor
  · rintro ⟨quote, ⟨final, ran, none, rfl⟩, rfl⟩
    exact ⟨final, ran, none, rfl⟩
  · rintro ⟨final, ran, none, rfl⟩
    exact ⟨_, ⟨final, ran, none, rfl⟩, rfl⟩

end

end Input

end ClmmPool

end PolyBot.Dex
