import Mathlib.Data.Int.ConditionallyCompleteOrder
import Mathlib.Data.Int.Interval
import PolyBot.Dex.Quotes

/-!
# The legs of a traversal

Every loop of a quote goes through the same legs: from where the traversal stands to the next
boundary, at constant liquidity.  A leg has a whole cost and a whole output, which do not depend on
the amount that is quoted; the amount only decides on which leg the loop ends.

* `ClmmPool.Sound.nextBoundary_eq`: the search for the next boundary does not fail.
* `ClmmPool.valid_behind`, `ClmmPool.Sound.progress`: what holds behind a boundary, and that a
  boundary which is reached leaves fewer ticks ahead.
* `ClmmPool.Sound.fewer_stops`: it also leaves fewer initialized ticks and ends of words ahead.
-/

namespace PolyBot.Dex

open SwapMath

namespace ClmmPool

section Boundaries

variable (pool : ClmmPool) (zeroForOne : Bool) (tick : Int)

/-- The next boundary as a function. -/
def boundaryAt : Boundary :=
  let found := pool.nextInitializedTick tick zeroForOne
  let tickNext := clampTick found.1
  let sqrtPriceNextX96 := (TickMath.getSqrtRatioAtTick tickNext).getD 0
  ⟨tickNext, found.2, sqrtPriceNextX96, sqrtPriceTarget zeroForOne sqrtPriceNextX96⟩

theorem boundaryAt_priced :
    TickMath.getSqrtRatioAtTick (pool.boundaryAt zeroForOne tick).tickNext =
      some (pool.boundaryAt zeroForOne tick).sqrtPriceNextX96 := by
  obtain ⟨low, high⟩ := clampTick_range (pool.nextInitializedTick tick zeroForOne).1
  obtain ⟨ratio, priced⟩ := TickMath.getSqrtRatioAtTick_isSome low high
  simp only [boundaryAt, priced, Option.getD_some]

/-- The search for the next boundary does not fail. -/
theorem Sound.nextBoundary_eq {pool : ClmmPool} {zeroForOne : Bool} (sound : pool.Sound)
    (tick : Int) :
    pool.nextBoundary zeroForOne tick = .ok (pool.boundaryAt zeroForOne tick) := by
  have priced := boundaryAt_priced pool zeroForOne tick
  have found : pool.sqrtRatioAtTraversalTick
      (clampTick (pool.nextInitializedTick tick zeroForOne).1)
      (pool.nextInitializedTick tick zeroForOne).2 =
      .ok (pool.boundaryAt zeroForOne tick).sqrtPriceNextX96 := by
    unfold sqrtRatioAtTraversalTick
    split
    · exact orError_eq_ok.mpr priced
    · rename_i unset
      rw [wordBoundarySqrtRatio, if_pos (sound.cached (Bool.not_eq_true _ ▸ unset))]
      exact orError_eq_ok.mpr priced
  simp only [nextBoundary, boundaryFound, found, ok_bind]
  rfl

theorem boundaryAt_bounds :
    minSqrtRatio ≤ (pool.boundaryAt zeroForOne tick).sqrtPriceNextX96 ∧
      (pool.boundaryAt zeroForOne tick).sqrtPriceNextX96 ≤ maxSqrtRatio :=
  TickMath.getSqrtRatioAtTick_bounds (boundaryAt_priced pool zeroForOne tick)

theorem boundaryAt_range :
    minTick ≤ (pool.boundaryAt zeroForOne tick).tickNext ∧
      (pool.boundaryAt zeroForOne tick).tickNext ≤ maxTick :=
  clampTick_range _

end Boundaries

end ClmmPool

/-- What holds of every traversal: its values are of the library's types, and going up it has not
passed the limit. -/
structure Walk.Valid (zeroForOne : Bool) (walk : Walk) : Prop where
  low : minSqrtRatio ≤ walk.sqrtPriceX96
  high : walk.sqrtPriceX96 ≤ maxSqrtRatio
  limit : zeroForOne = false → walk.sqrtPriceX96 ≤ sqrtPriceLimitX96 false
  active : walk.liquidity < 2 ^ 128
  tickLow : minTick - 1 ≤ walk.tick
  tickHigh : walk.tick ≤ maxTick

namespace ClmmPool

section Legs

variable {pool : ClmmPool} {zeroForOne : Bool} {walk next : Walk}

theorem Sound.valid_start (sound : pool.Sound) : pool.start.Valid zeroForOne := by
  obtain ⟨low, high⟩ := sound.price
  refine ⟨low, high.le, ?_, sound.active, ?_, sound.head.2⟩
  · intro up
    show pool.sqrtPriceX96 ≤ maxSqrtRatio - 1
    omega
  · have := sound.head.1
    show minTick - 1 ≤ pool.tick
    omega

section

variable (pool zeroForOne walk)

def target : Nat :=
  (pool.boundaryAt zeroForOne walk.tick).target

/-- The whole cost of the leg that starts here. -/
def legCost : Nat :=
  fullCost walk.sqrtPriceX96 (pool.target zeroForOne walk) walk.liquidity
    (pool.feePipsForDirection zeroForOne)

/-- The whole output of the leg that starts here. -/
def legOutput : Nat :=
  fullOutput walk.sqrtPriceX96 (pool.target zeroForOne walk) walk.liquidity

/-- The leg ends at a tick and not at the limit of the swap. -/
def EndsAtTick : Prop :=
  pool.target zeroForOne walk = (pool.boundaryAt zeroForOne walk.tick).sqrtPriceNextX96

end

instance : Decidable (pool.EndsAtTick zeroForOne walk) :=
  inferInstanceAs (Decidable (_ = _))

/-- What is behind the boundary of the leg. -/
def behind (pool : ClmmPool) (zeroForOne : Bool) (failure : String) (walk : Walk) :
    Except ClmmError Walk :=
  pool.cross zeroForOne failure walk.liquidity (pool.boundaryAt zeroForOne walk.tick)

theorem Sound.fee_lt (sound : pool.Sound) : pool.feePipsForDirection zeroForOne < 1000000 := by
  unfold feePipsForDirection
  split
  · exact sound.fees.1
  · exact sound.fees.2

theorem target_eq (pool : ClmmPool) (zeroForOne : Bool) (walk : Walk) :
    pool.target zeroForOne walk =
      sqrtPriceTarget zeroForOne (pool.boundaryAt zeroForOne walk.tick).sqrtPriceNextX96 :=
  rfl

theorem target_bounds (pool : ClmmPool) (zeroForOne : Bool) (walk : Walk) :
    minSqrtRatio ≤ pool.target zeroForOne walk ∧ pool.target zeroForOne walk ≤ maxSqrtRatio ∧
      (zeroForOne = false → pool.target zeroForOne walk ≤ sqrtPriceLimitX96 false) ∧
      (zeroForOne = true → sqrtPriceLimitX96 true ≤ pool.target zeroForOne walk) := by
  obtain ⟨low, high⟩ := boundaryAt_bounds pool zeroForOne walk.tick
  rw [target_eq]
  generalize (pool.boundaryAt zeroForOne walk.tick).sqrtPriceNextX96 = price at low high ⊢
  have down : sqrtPriceLimitX96 true = minSqrtRatio + 1 := rfl
  have up : sqrtPriceLimitX96 false = maxSqrtRatio - 1 := rfl
  unfold sqrtPriceTarget
  unfold minSqrtRatio maxSqrtRatio at *
  cases zeroForOne with
  | true =>
    simp only [if_true, down, up, reduceCtorEq, false_implies, true_implies, true_and]
    omega
  | false =>
    simp only [Bool.false_eq_true, if_false, down, up, false_implies, true_implies, and_true]
    omega

end Legs

end ClmmPool

theorem Walk.Valid.priced {zeroForOne : Bool} {walk : Walk} (valid : walk.Valid zeroForOne)
    (pool : ClmmPool) :
    Priced walk.sqrtPriceX96 (pool.target zeroForOne walk) walk.liquidity := by
  obtain ⟨low, high, -, -⟩ := ClmmPool.target_bounds pool zeroForOne walk
  have start := valid.low
  have stop := valid.high
  unfold minSqrtRatio maxSqrtRatio at *
  exact ⟨by omega, by omega, by omega, by omega, valid.active⟩

namespace ClmmPool

section Crossing

variable {pool : ClmmPool} {zeroForOne : Bool} {walk next : Walk} {failure : String}

/-- A leg that costs nothing yields nothing. -/
theorem legOutput_eq_zero (valid : walk.Valid zeroForOne)
    (free : pool.legCost zeroForOne walk = 0) : pool.legOutput zeroForOne walk = 0 :=
  fullOutput_eq_zero (valid.priced pool) free

theorem legCost_ne_zero (valid : walk.Valid zeroForOne)
    (yields : pool.legOutput zeroForOne walk ≠ 0) : pool.legCost zeroForOne walk ≠ 0 :=
  fun free => yields (legOutput_eq_zero valid free)

/-- What crossing a boundary leaves: the tick behind it and a liquidity of the library's type. -/
theorem behind_spec (active : walk.liquidity < 2 ^ 128)
    (crossed : pool.behind zeroForOne failure walk = .ok next) :
    next.sqrtPriceX96 = (pool.boundaryAt zeroForOne walk.tick).sqrtPriceNextX96 ∧
      next.tick = (if zeroForOne then (pool.boundaryAt zeroForOne walk.tick).tickNext - 1
        else (pool.boundaryAt zeroForOne walk.tick).tickNext) ∧
      next.liquidity < 2 ^ 128 := by
  simp only [behind, cross, bind_eq_ok, pure_eq_ok] at crossed
  obtain ⟨liquidity, computed, rfl⟩ := crossed
  refine ⟨rfl, rfl, ?_⟩
  unfold liquidityAcross at computed
  split at computed
  · simp only [liquidityBehind, bind_eq_ok] at computed
    obtain ⟨tickState, -, liquidityNet, -, computed⟩ := computed
    exact addDelta_lt active (mapError_eq_ok.mp computed)
  · cases computed
    exact active

/-- The message of a failed crossing is the caller's; whether it fails is not. -/
theorem behind_eq_ok_iff {failure' : String} :
    pool.behind zeroForOne failure walk = .ok next ↔ pool.behind zeroForOne failure' walk = .ok next := by
  simp only [behind, cross, bind_eq_ok, pure_eq_ok]
  apply exists_congr
  intro liquidity
  apply and_congr_left
  intro _
  unfold liquidityAcross
  split
  · simp only [liquidityBehind, bind_eq_ok]
    apply exists_congr
    intro tickState
    apply and_congr_right
    intro _
    apply exists_congr
    intro liquidityNet
    apply and_congr_right
    intro _
    rw [mapError_eq_ok, mapError_eq_ok]
  · exact Iff.rfl

/-- A crossing fails with its caller's message or because a net liquidity cannot be negated. -/
theorem Sound.failsWith_behind (sound : pool.Sound) {E : ClmmError → Prop}
    (rejected : ∀ message, E (.rejected message)) :
    FailsWith E (pool.behind zeroForOne failure walk) := by
  unfold behind cross
  apply FailsWith.bind
  · unfold liquidityAcross
    split
    · rename_i initialized
      have mem : (pool.boundaryAt zeroForOne walk.tick).tickNext ∈ pool.ticks :=
        sound.initialized_mem initialized
      obtain ⟨state, held⟩ := Option.isSome_iff_exists.mp
        (Std.TreeMap.mem_iff_isSome_getElem?.mp mem)
      simp only [liquidityBehind, held, orError, ok_bind]
      apply FailsWith.bind
      · unfold netInDirection
        split
        · exact failsWith_orError (rejected _)
        · exact failsWith_ok _
      · intro liquidityNet _ e failed
        rcases added : uniswapV3Math.addDelta walk.liquidity liquidityNet with message | value
        · rw [added] at failed
          cases failed
          exact rejected failure
        · rw [added] at failed
          cases failed
    · exact failsWith_ok _
  · intro liquidity _
    exact failsWith_pure _

/-- The price reached by a step that stays between the two prices of its leg. -/
def Between (current target price : Nat) : Prop :=
  Towards (direction current target) current price ∧ Towards (direction current target) price target

/-- Only at the lowest price, which lies below the limit, is the boundary met before the end of the
leg. -/
theorem lowest_of_touch (valid : walk.Valid zeroForOne)
    (between : Between walk.sqrtPriceX96 (pool.target zeroForOne walk)
      (pool.boundaryAt zeroForOne walk.tick).sqrtPriceNextX96)
    (elsewhere : ¬ pool.EndsAtTick zeroForOne walk) :
    zeroForOne = true ∧ walk.sqrtPriceX96 = minSqrtRatio ∧
      (pool.boundaryAt zeroForOne walk.tick).sqrtPriceNextX96 = walk.sqrtPriceX96 := by
  obtain ⟨forward, short⟩ := between
  have low := valid.low
  have limit := valid.limit
  have lowest := (boundaryAt_bounds pool zeroForOne walk.tick).1
  have target := target_eq pool zeroForOne walk
  have down : sqrtPriceLimitX96 true = minSqrtRatio + 1 := rfl
  unfold EndsAtTick at elsewhere
  unfold Towards direction at forward short
  unfold sqrtPriceTarget at target
  cases zeroForOne with
  | true =>
    simp only [if_true, down] at target
    refine ⟨rfl, ?_⟩
    split_ifs at forward short with direction <;> simp only [decide_eq_true_eq] at direction <;> omega
  | false =>
    have start := limit rfl
    simp only [Bool.false_eq_true, if_false] at target
    split_ifs at forward short with direction <;> simp only [decide_eq_true_eq] at direction <;> omega

theorem valid_behind (valid : walk.Valid zeroForOne)
    (between : Between walk.sqrtPriceX96 (pool.target zeroForOne walk)
      (pool.boundaryAt zeroForOne walk.tick).sqrtPriceNextX96)
    (crossed : pool.behind zeroForOne failure walk = .ok next) : next.Valid zeroForOne := by
  obtain ⟨price, tick, active⟩ := behind_spec valid.active crossed
  obtain ⟨low, high⟩ := boundaryAt_bounds pool zeroForOne walk.tick
  obtain ⟨tickLow, tickHigh⟩ := boundaryAt_range pool zeroForOne walk.tick
  refine ⟨price ▸ low, price ▸ high, ?_, active, ?_, ?_⟩
  · intro up
    have start := valid.limit up
    have stop := (target_bounds pool zeroForOne walk).2.2.1 up
    obtain ⟨forward, short⟩ := between
    rw [price]
    unfold Towards at forward short
    split_ifs at forward short <;> omega
  · rw [tick]
    split <;> omega
  · rw [tick]
    split <;> omega

/-- A leg that ends at a tick ends ahead of where it starts, and short of the end of the range: the
last ticks lie beyond the limits. -/
theorem Sound.ends_ahead (sound : pool.Sound) (ends : pool.EndsAtTick zeroForOne walk) :
    if zeroForOne then minTick < (pool.boundaryAt zeroForOne walk.tick).tickNext ∧
      (pool.boundaryAt zeroForOne walk.tick).tickNext ≤ walk.tick
    else walk.tick < (pool.boundaryAt zeroForOne walk.tick).tickNext ∧
      (pool.boundaryAt zeroForOne walk.tick).tickNext < maxTick := by
  have priced := boundaryAt_priced pool zeroForOne walk.tick
  have bounds := target_bounds pool zeroForOne walk
  obtain ⟨tickLow, tickHigh⟩ := boundaryAt_range pool zeroForOne walk.tick
  rw [ends] at bounds
  cases zeroForOne with
  | true =>
    have short : (pool.boundaryAt true walk.tick).tickNext ≠ minTick := by
      intro atEnd
      have lowest : TickMath.getSqrtRatioAtTick minTick = some minSqrtRatio := by decide +kernel
      rw [atEnd, lowest] at priced
      have price := Option.some.inj priced
      have limit : minSqrtRatio + 1 ≤ (pool.boundaryAt true walk.tick).sqrtPriceNextX96 :=
        bounds.2.2.2 rfl
      omega
    have inside : minTick ≤ walk.tick := by
      by_contra outside
      exact short (sound.clamped_below (Int.not_le.mp outside))
    exact ⟨by omega, sound.clamped_le inside⟩
  | false =>
    have short : (pool.boundaryAt false walk.tick).tickNext ≠ maxTick := by
      intro atEnd
      have highest : TickMath.getSqrtRatioAtTick maxTick = some maxSqrtRatio := by decide +kernel
      rw [atEnd, highest] at priced
      have price := Option.some.inj priced
      have limit : (pool.boundaryAt false walk.tick).sqrtPriceNextX96 ≤ maxSqrtRatio - 1 :=
        bounds.2.2.1 rfl
      have positive : 0 < maxSqrtRatio := by decide
      omega
    have inside : walk.tick < maxTick := by
      by_contra outside
      exact short (sound.clamped_above (Int.not_lt.mp outside))
    exact ⟨sound.lt_clamped inside, by omega⟩

/-- The number of ticks ahead. -/
def ticksAhead (zeroForOne : Bool) (walk : Walk) : Nat :=
  if zeroForOne then (walk.tick - minTick + 2).toNat else (maxTick - walk.tick + 1).toNat

section

variable (pool zeroForOne)

/-- Where a traversal can stop: at an initialized tick, or at the end of a word in its direction. -/
def IsStop (tick : Int) : Prop :=
  tick ∈ pool.ticks ∨
    pool.scale ∣ tick ∧ tick / pool.scale % 256 = if zeroForOne then 0 else 255

instance (tick : Int) : Decidable (pool.IsStop zeroForOne tick) :=
  inferInstanceAs (Decidable (_ ∨ _))

/-- The stops between a tick and the end of the range. -/
noncomputable def stopsAhead (tick : Int) : Finset Int :=
  (Finset.Icc minTick maxTick).filter fun stop =>
    (if zeroForOne then stop ≤ tick else tick < stop) ∧ pool.IsStop zeroForOne stop

/-- One round for each stop ahead, and one more. -/
noncomputable def roundsAhead (tick : Int) : Nat :=
  (pool.stopsAhead zeroForOne tick).card + 1

end

theorem mem_stopsAhead {tick stop : Int} : stop ∈ pool.stopsAhead zeroForOne tick ↔
    (minTick ≤ stop ∧ stop ≤ maxTick) ∧ (if zeroForOne then stop ≤ tick else tick < stop) ∧
      pool.IsStop zeroForOne stop := by
  rw [stopsAhead, Finset.mem_filter, Finset.mem_Icc]

section Ends

variable (sound : pool.Sound) (valid : walk.Valid zeroForOne)
  (ends : pool.EndsAtTick zeroForOne walk)

include sound valid ends

/-- A leg that ends at a tick leaves fewer ticks ahead. -/
theorem Sound.progress (crossed : pool.behind zeroForOne failure walk = .ok next) :
    ticksAhead zeroForOne next < ticksAhead zeroForOne walk := by
  obtain ⟨-, tick, -⟩ := behind_spec valid.active crossed
  have ahead := sound.ends_ahead ends
  unfold ticksAhead
  rw [tick]
  cases zeroForOne with
  | true =>
    simp only [if_true] at ahead ⊢
    omega
  | false =>
    simp only [Bool.false_eq_true, if_false] at ahead ⊢
    omega

theorem Sound.stop_of_ends :
    (pool.boundaryAt zeroForOne walk.tick).tickNext ∈ pool.stopsAhead zeroForOne walk.tick := by
  have ahead := sound.ends_ahead ends
  have found := sound.foundTick walk.tick zeroForOne
  have low := valid.tickLow
  have high := valid.tickHigh
  -- the end of the leg is what the search returned, before it is clamped
  have searched : (pool.boundaryAt zeroForOne walk.tick).tickNext =
      (pool.searchWord walk.tick zeroForOne).1 * pool.scale := by
    have side := found.side
    have clamped : (pool.boundaryAt zeroForOne walk.tick).tickNext = clampTick _ :=
      (sound.clamped_eq walk.tick zeroForOne).1
    unfold clampTick at clamped
    split_ifs at ahead side <;> omega
  rw [mem_stopsAhead]
  refine ⟨boundaryAt_range pool zeroForOne walk.tick, by split_ifs at ahead ⊢ <;> omega, ?_⟩
  rw [searched]
  rcases flag : (pool.searchWord walk.tick zeroForOne).2 with _ | _
  · refine Or.inr ⟨Dvd.intro_left _ rfl, ?_⟩
    rw [Int.mul_ediv_cancel _ (scale_pos sound.spacing).ne']
    exact searchWord_end flag
  · exact Or.inl (found.flag.mp flag)

/-- A leg that ends at a tick leaves fewer stops ahead. -/
theorem Sound.fewer_stops (crossed : pool.behind zeroForOne failure walk = .ok next) :
    pool.roundsAhead zeroForOne next.tick < pool.roundsAhead zeroForOne walk.tick := by
  obtain ⟨-, tick, -⟩ := behind_spec valid.active crossed
  have ahead := sound.ends_ahead ends
  refine Nat.succ_lt_succ (Finset.card_lt_card ((Finset.ssubset_iff_of_subset fun stop mem => ?_).mpr
    ⟨_, sound.stop_of_ends valid ends, fun mem => ?_⟩))
  · obtain ⟨range, further, isStop⟩ := mem_stopsAhead.mp mem
    refine mem_stopsAhead.mpr ⟨range, ?_, isStop⟩
    rw [tick] at further
    split_ifs at ahead further ⊢ <;> omega
  · have further := (mem_stopsAhead.mp mem).2.1
    rw [tick] at further
    split_ifs at further <;> omega

end Ends

end Crossing

end ClmmPool

end PolyBot.Dex
