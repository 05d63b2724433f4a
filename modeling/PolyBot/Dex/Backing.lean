import PolyBot.Dex.LiquidityDelta
import PolyBot.Dex.Paths
import Mathlib.Algebra.BigOperators.Intervals

/-!
# The liquidity of a traversal

A traversal changes its liquidity only where it crosses an initialized tick.  If it starts with the
net liquidity of the ticks up to its own, it stays there: a search passes no initialized tick, and a
crossing adds or takes away the one it found.

* `ClmmPool.Sound.backed_behind`: a crossing keeps the liquidity backed.
* `ClmmPool.Sound.crosses`: over a map whose sums are liquidities, no crossing fails.
-/

namespace PolyBot.Dex

open Finset (Icc)

namespace ClmmPool

section Sums

variable {pool : ClmmPool} {tick other : Int}

theorem Sound.netUpTo_pred (sound : pool.Sound) (inside : minTick ≤ tick) :
    pool.netUpTo tick = pool.netUpTo (tick - 1) + (pool.position tick).net := by
  have split : Icc minTick tick = Insert.insert tick (Icc minTick (tick - 1)) := by
    ext other
    simp only [Finset.mem_insert, Finset.mem_Icc]
    omega
  rw [sound.netUpTo_eq, sound.netUpTo_eq, split, Finset.sum_insert (by simp), add_comm]
  rfl

/-- Ticks that are not initialized add nothing. -/
theorem Sound.netUpTo_congr (sound : pool.Sound) (le : tick ≤ other)
    (between : ∀ passed, tick < passed → passed ≤ other → passed ∉ pool.ticks) :
    pool.netUpTo tick = pool.netUpTo other := by
  rw [sound.netUpTo_eq, sound.netUpTo_eq]
  apply Finset.sum_subset (Finset.Icc_subset_Icc_right le)
  intro passed mem outside
  simp only [Finset.mem_Icc, not_and, not_le] at mem outside
  have absent := between passed (outside mem.1) mem.2
  change (pool.position passed).net = 0
  rw [position_of_not_mem absent]

end Sums

end ClmmPool

/-- The liquidity of a traversal is what the ticks up to its own have brought in. -/
def Walk.Backed (pool : ClmmPool) (walk : Walk) : Prop :=
  (walk.liquidity : Int) = pool.netUpTo walk.tick

namespace ClmmPool

section Crossing

variable {pool : ClmmPool} {zeroForOne : Bool} {walk next : Walk} {failure : String}

/-- The net liquidity that a crossing brings in. -/
def broughtIn (pool : ClmmPool) (zeroForOne : Bool) (boundary : Boundary) : Int :=
  if boundary.initialized then
    if zeroForOne then -(pool.position boundary.tickNext).net
    else (pool.position boundary.tickNext).net
  else 0

theorem addDelta_eq_ok {liquidity active : Nat} {delta : Int} (fits : liquidity < 2 ^ 128) :
    uniswapV3Math.addDelta liquidity delta = .ok active ↔
      (active : Int) = liquidity + delta ∧ active < 2 ^ 128 := by
  simp only [uniswapV3Math]
  split
  · rw [orError_eq_ok, checkedSub_eq_some]
    omega
  · rw [orError_eq_ok, checkedAdd_eq_some]
    omega

theorem netInDirection_eq_ok {net moved : Int} :
    netInDirection zeroForOne net = .ok moved ↔
      (zeroForOne = true → FitsInt 128 (-net)) ∧ moved = if zeroForOne then -net else net := by
  unfold netInDirection FitsInt
  cases zeroForOne with
  | true =>
    simp only [if_true, orError_eq_ok, checkedInt_eq_some, true_implies]
    norm_num
    omega
  | false => simp [eq_comm]

/-- All that a crossing can do. -/
theorem Sound.behind_eq_ok (sound : pool.Sound) (active : walk.liquidity < 2 ^ 128) :
    pool.behind zeroForOne failure walk = .ok next ↔
      ((pool.boundaryAt zeroForOne walk.tick).initialized = true → zeroForOne = true →
        FitsInt 128 (-(pool.position (pool.boundaryAt zeroForOne walk.tick).tickNext).net)) ∧
      (next.liquidity : Int) =
        walk.liquidity + pool.broughtIn zeroForOne (pool.boundaryAt zeroForOne walk.tick) ∧
      next.liquidity < 2 ^ 128 ∧
      next.sqrtPriceX96 = (pool.boundaryAt zeroForOne walk.tick).sqrtPriceNextX96 ∧
      next.tick = if zeroForOne then (pool.boundaryAt zeroForOne walk.tick).tickNext - 1
        else (pool.boundaryAt zeroForOne walk.tick).tickNext := by
  obtain ⟨price, tick, liquidity⟩ := next
  simp only [behind, cross, bind_eq_ok, pure_eq_ok, Walk.mk.injEq, liquidityAcross, broughtIn]
  by_cases initialized : (pool.boundaryAt zeroForOne walk.tick).initialized = true
  · obtain ⟨state, held⟩ := Option.isSome_iff_exists.mp
      (Std.TreeMap.mem_iff_isSome_getElem?.mp (sound.initialized_mem initialized))
    have held' : pool.ticks[(pool.boundaryAt zeroForOne walk.tick).tickNext]? = some state := held
    have position : pool.position (pool.boundaryAt zeroForOne walk.tick).tickNext = state := by
      rw [ClmmPool.position, held', Option.getD_some]
    simp only [initialized, if_true, liquidityBehind, held', orError, ok_bind, bind_eq_ok,
      netInDirection_eq_ok, mapError_eq_ok, addDelta_eq_ok active, position, true_implies]
    constructor
    · rintro ⟨_, ⟨_, ⟨negates, rfl⟩, moved, small⟩, rfl, rfl, rfl⟩
      exact ⟨negates, moved, small, rfl, rfl⟩
    · rintro ⟨negates, moved, small, rfl, rfl⟩
      exact ⟨_, ⟨_, ⟨negates, rfl⟩, moved, small⟩, rfl, rfl, rfl⟩
  · simp only [initialized, Bool.false_eq_true, if_false, false_implies, true_and, add_zero,
      Nat.cast_inj]
    constructor
    · rintro ⟨_, ⟨⟩, rfl, rfl, rfl⟩
      exact ⟨rfl, active, rfl, rfl⟩
    · rintro ⟨rfl, -, rfl, rfl⟩
      exact ⟨_, rfl, rfl, rfl, rfl⟩

/-- The sum up to the tick behind a boundary. -/
theorem Sound.netUpTo_behind (sound : pool.Sound) (low : minTick - 1 ≤ walk.tick)
    (high : walk.tick ≤ maxTick) :
    pool.netUpTo (if zeroForOne then (pool.boundaryAt zeroForOne walk.tick).tickNext - 1
        else (pool.boundaryAt zeroForOne walk.tick).tickNext) =
      pool.netUpTo walk.tick +
        pool.broughtIn zeroForOne (pool.boundaryAt zeroForOne walk.tick) := by
  obtain ⟨clamped, flag⟩ := sound.clamped_eq walk.tick zeroForOne
  have spec := sound.foundTick walk.tick zeroForOne
  have tickNext : (pool.boundaryAt zeroForOne walk.tick).tickNext =
      clampTick ((pool.searchWord walk.tick zeroForOne).1 * pool.scale) := clamped
  have initialized : (pool.boundaryAt zeroForOne walk.tick).initialized =
      (pool.searchWord walk.tick zeroForOne).2 := flag
  rw [broughtIn, tickNext, initialized]
  generalize (pool.searchWord walk.tick zeroForOne).1 * pool.scale = found at spec
  generalize (pool.searchWord walk.tick zeroForOne).2 = set at spec
  obtain ⟨mem, passed, side, -⟩ := spec
  -- an initialized result is its own boundary; any other one may have been moved into the range
  cases zeroForOne with
  | true =>
    simp only [if_true, Passed] at side passed ⊢
    cases set with
    | true =>
      have held := mem.mp rfl
      have range := sound.inside found held
      have below := sound.netUpTo_pred range.1
      have above := sound.netUpTo_congr side fun other after upTo isTick =>
        passed other isTick ⟨after, upTo⟩
      rw [clampTick_of_mem range, if_pos rfl]
      omega
    | false =>
      have absent : found ∉ pool.ticks := fun held => by simpa using mem.mpr held
      have le : clampTick found - 1 ≤ walk.tick := by unfold clampTick; omega
      rw [if_neg Bool.false_ne_true, add_zero]
      apply sound.netUpTo_congr le
      intro other after upTo isTick
      have range := sound.inside other isTick
      have from_ : found ≤ other := by unfold clampTick at after; omega
      rcases from_.lt_or_eq with less | rfl
      · exact passed other isTick ⟨less, upTo⟩
      · exact absent isTick
  | false =>
    simp only [Bool.false_eq_true, if_false, Passed] at side passed ⊢
    cases set with
    | true =>
      have held := mem.mp rfl
      have range := sound.inside found held
      have at_ := sound.netUpTo_pred range.1
      have below := sound.netUpTo_congr (Int.le_sub_one_of_lt side) fun other after upTo isTick =>
        passed other isTick ⟨after, by omega⟩
      rw [clampTick_of_mem range, if_pos rfl]
      omega
    | false =>
      have absent : found ∉ pool.ticks := fun held => by simpa using mem.mpr held
      have le : walk.tick ≤ clampTick found := by unfold clampTick; omega
      rw [if_neg Bool.false_ne_true, add_zero]
      symm
      apply sound.netUpTo_congr le
      intro other after upTo isTick
      have range := sound.inside other isTick
      have atMost : other ≤ found := by unfold clampTick at upTo; omega
      rcases atMost.lt_or_eq with less | rfl
      · exact passed other isTick ⟨after, less⟩
      · exact absent isTick

/-- A crossing keeps the liquidity backed. -/
theorem Sound.backed_behind (sound : pool.Sound) (valid : walk.Valid zeroForOne)
    (backed : walk.Backed pool) (crossed : pool.behind zeroForOne failure walk = .ok next) :
    next.Backed pool := by
  obtain ⟨-, moved, -, -, tick⟩ := (sound.behind_eq_ok valid.active).mp crossed
  have sum := @netUpTo_behind pool zeroForOne walk sound valid.tickLow valid.tickHigh
  unfold Walk.Backed at *
  rw [moved, tick, sum, backed]

/-- The sums of a map are liquidities, and no net liquidity is the one that cannot be negated. -/
structure Crossable (pool : ClmmPool) : Prop where
  sums : ∀ tick, 0 ≤ pool.netUpTo tick ∧ pool.netUpTo tick < 2 ^ 128
  negates : ∀ tick, FitsInt 128 (-(pool.position tick).net)

/-- Over such a map, no crossing fails. -/
theorem Sound.crosses (sound : pool.Sound) (crossable : pool.Crossable)
    (valid : walk.Valid zeroForOne) (backed : walk.Backed pool) :
    ∃ next, pool.beyond zeroForOne walk = some next := by
  have sum := @netUpTo_behind pool zeroForOne walk sound valid.tickLow valid.tickHigh
  obtain ⟨low, high⟩ := crossable.sums (if zeroForOne then
    (pool.boundaryAt zeroForOne walk.tick).tickNext - 1
    else (pool.boundaryAt zeroForOne walk.tick).tickNext)
  rw [sum, ← backed] at low high
  refine ⟨⟨_, _, (walk.liquidity +
    pool.broughtIn zeroForOne (pool.boundaryAt zeroForOne walk.tick)).toNat⟩,
    (@beyond_eq_some _ _ _ _ "").mpr ((sound.behind_eq_ok valid.active).mpr
      ⟨fun _ _ => crossable.negates _, ?_, ?_, rfl, rfl⟩)⟩
  · exact Int.toNat_of_nonneg low
  · simp only
    omega

end Crossing

end ClmmPool

end PolyBot.Dex
