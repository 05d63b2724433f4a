import PolyBot.Dex.Traversal
import Mathlib.Algebra.BigOperators.Pi
import Mathlib.Data.Int.ConditionallyCompleteOrder
import Mathlib.Data.Int.Interval
import Mathlib.Tactic.Abel

/-!
# Deltas of liquidity

A Mint or a Burn writes to its pool in place: two boundaries, two bits and the active liquidity, each
write after a check that may fail.  `applyLiquidityDeltaInPlace` is that procedure, and it either
does all of `applyLiquidityDelta` or nothing.

What a pool holds, its gross and net liquidity at every tick and its active liquidity, is a vector of
integers.  A delta adds a vector that is linear in its amount, and a sound pool is determined by what
it holds, so deltas commute and cancel however ticks appear and disappear between them.

* `ClmmPool.applyLiquidityDeltaInPlace_transacts`: the procedure against the function.
* `ClmmPool.applyLiquidityDelta_holdings`: a delta adds its vector.
* `ClmmPool.Sound.samePool`: pools that hold the same are the same.
* `ClmmPool.liquidity_deltas_atomic_and_invertible`: both together, for reachable pools.
-/

namespace PolyBot.Dex

open Proc Std

open Finset (Icc)

namespace ClmmPool

/-! ## In place -/

/-- The toggled bit is written only after the checks of `flipTick`. -/
def flipTickInPlace (tick : Int) (context : String) : Proc ClmmPool String Unit := do
  let pool ← get
  let flipped ← lift ((pool.flipTick uniswapV3Math tick).mapError fun _ => context)
  set flipped

def setTickInPlace (index : Int) (gross : Nat) (net : Int) : Proc ClmmPool String Unit := do
  let pool ← get
  ensure (index.tmod pool.tickSpacing = 0) "tick does not align to spacing"
  ensure (minTick ≤ index ∧ index ≤ maxTick) "tick is out of range"
  match pool.ticks[index]?, gross with
  | none, 0 => pure ()
  | none, _ => do
    flipTickInPlace index "failed to initialize tick bitmap bit"
    modify fun pool => { pool with ticks := pool.ticks.insert index ⟨gross, net⟩ }
  | some _, 0 => do
    flipTickInPlace index "failed to clear tick bitmap bit"
    modify fun pool => { pool with ticks := pool.ticks.erase index }
  | some _, _ =>
    modify fun pool => { pool with ticks := pool.ticks.insert index ⟨gross, net⟩ }

/-- The writes of a non-zero delta, after everything they need has been computed. -/
def moveLiquidityInPlace (tickLower tickUpper delta : Int) : Proc ClmmPool String Unit := do
  let pool ← get
  let amount := delta.natAbs
  let lower ← lift (updatedBoundary pool.ticks[tickLower]? amount delta (0 < delta))
  let upperNetDelta ← orFail (checkedInt 128 (-delta)) "liquidity delta overflow"
  let upper ← lift (updatedBoundary pool.ticks[tickUpper]? amount upperNetDelta (0 < delta))
  let active ← lift (pool.activeLiquidity uniswapV3Math tickLower tickUpper delta)
  setTickInPlace tickLower lower.gross lower.net
  setTickInPlace tickUpper upper.gross upper.net
  modify fun pool => { pool with liquidity := active }

def applyLiquidityDeltaInPlace (tickLower tickUpper delta : Int) : Proc ClmmPool String Unit := do
  let pool ← get
  ensure (tickLower < tickUpper) "liquidity range is empty"
  ensure (tickLower.tmod pool.tickSpacing = 0 ∧ tickUpper.tmod pool.tickSpacing = 0)
    "liquidity range does not align to tick spacing"
  ensure ((minTick ≤ tickLower ∧ tickLower ≤ maxTick) ∧
    minTick ≤ tickUpper ∧ tickUpper ≤ maxTick) "liquidity range is out of bounds"
  if delta = 0 then pure () else moveLiquidityInPlace tickLower tickUpper delta

theorem setTickInPlace_transacts (pool : ClmmPool) (index : Int) (gross : Nat) (net : Int) :
    Transacts (setTickInPlace index gross net) (pool.setTick uniswapV3Math index gross net)
      pool := by
  apply transacts_get
  apply transacts_ensure
  intro divides
  apply transacts_ensure
  intro range
  have flipped := flipTick_eq_ok divides range
  unfold Transacts flipTickInPlace
  rcases pool.ticks[index]? with _ | state <;> rcases gross with _ | gross
  case none.zero | some.succ => rfl
  all_goals
    simp only [wp_bind, wp_get, flipped]
    simp [Except.mapError]

/-- The writes come last, and after the checks of the range none of them can fail. -/
theorem applyLiquidityDeltaInPlace_transacts (pool : ClmmPool) (tickLower tickUpper delta : Int) :
    Transacts (applyLiquidityDeltaInPlace tickLower tickUpper delta)
      (pool.applyLiquidityDelta uniswapV3Math tickLower tickUpper delta) pool := by
  apply transacts_get
  apply transacts_ensure
  intro nonempty
  apply transacts_ensure
  rintro ⟨lowerDivides, upperDivides⟩
  apply transacts_ensure
  rintro ⟨lowerRange, upperRange⟩
  by_cases zero : delta = 0
  · rw [if_pos zero, if_pos zero]
    rfl
  rw [if_neg zero, if_neg zero]
  apply transacts_get
  apply transacts_lift
  intro lower _
  apply transacts_orFail
  intro upperNetDelta _
  apply transacts_lift
  intro upper _
  apply transacts_lift
  intro active _
  apply transacts_seq (setTickInPlace_transacts pool tickLower lower.gross lower.net)
  intro middle written
  obtain ⟨_, same, spacing⟩ := setTick_succeeds lower.gross lower.net lowerDivides lowerRange
  obtain rfl := Except.ok.inj (written.symm.trans same)
  rw [← spacing] at upperDivides
  obtain ⟨last, returns, -⟩ := setTick_succeeds upper.gross upper.net upperDivides upperRange
  constructor
  · apply transacts_seq (setTickInPlace_transacts middle tickUpper upper.gross upper.net)
    intro moved _
    exact ⟨rfl, _, rfl⟩
  · rw [returns]
    exact ⟨_, rfl⟩

/-! ## Holdings -/

/-- Gross and net liquidity at every tick, and the active liquidity. -/
abbrev Holdings := (Int → Int) × (Int → Int) × Int

/-- The liquidity at a tick; one that is not initialized has none. -/
def position (pool : ClmmPool) (tick : Int) : TickLiquidity :=
  pool.ticks[tick]?.getD ⟨0, 0⟩

def holdings (pool : ClmmPool) : Holdings :=
  (fun tick => (pool.position tick).gross, fun tick => (pool.position tick).net, pool.liquidity)

/-- What a delta adds to a pool whose head is at `tick`. -/
def deltaHoldings (tick tickLower tickUpper delta : Int) : Holdings :=
  (Pi.single tickLower delta + Pi.single tickUpper delta,
    Pi.single tickLower delta - Pi.single tickUpper delta,
    if tickLower ≤ tick ∧ tick < tickUpper then delta else 0)

theorem deltaHoldings_neg (tick tickLower tickUpper delta : Int) :
    deltaHoldings tick tickLower tickUpper (-delta) =
      -deltaHoldings tick tickLower tickUpper delta := by
  have active : (if tickLower ≤ tick ∧ tick < tickUpper then -delta else 0) =
      -(if tickLower ≤ tick ∧ tick < tickUpper then delta else 0) := by
    split <;> simp
  unfold deltaHoldings
  rw [active, Pi.single_neg, Pi.single_neg]
  refine Prod.ext ?_ (Prod.ext ?_ rfl)
  · change -_ + -_ = -(_ + _)
    abel
  · change -_ - -_ = -(_ - _)
    abel

section Effect

variable {pool next : ClmmPool} {tickLower tickUpper delta : Int}

theorem position_of_not_mem {tick : Int} (absent : tick ∉ pool.ticks) :
    pool.position tick = ⟨0, 0⟩ := by
  unfold position
  rw [TreeMap.getElem?_eq_none absent]
  rfl

variable {gross : Nat} {index net : Int}

/-- `setTick` stores what it is given: a tick that it drops is one without liquidity. -/
theorem setTick_position (called : pool.setTick uniswapV3Math index gross net = .ok next)
    (empty : gross = 0 → net = 0) (tick : Int) :
    next.position tick = if index = tick then ⟨gross, net⟩ else pool.position tick := by
  obtain ⟨-, -, written⟩ := setTick_cases called
  rcases written with ⟨absent, rfl, rfl⟩ | ⟨-, -, rfl⟩ | ⟨-, rfl, rfl⟩ | ⟨-, -, rfl⟩
  · split
    · rename_i same
      subst same
      rw [position_of_not_mem absent, empty rfl]
    · rfl
  · simp only [position, TreeMap.getElem?_insert, Std.LawfulEqOrd.compare_eq_iff_eq]
    split <;> rfl
  · simp only [position, TreeMap.getElem?_erase, Std.LawfulEqOrd.compare_eq_iff_eq]
    split
    · rw [empty rfl]
      rfl
    · rfl
  · simp only [position, TreeMap.getElem?_insert, Std.LawfulEqOrd.compare_eq_iff_eq]
    split <;> rfl

/-- `setTick` writes to the map and the bitmap only. -/
theorem setTick_frame (called : pool.setTick uniswapV3Math index gross net = .ok next) :
    next = { pool with tickBitmap := next.tickBitmap, ticks := next.ticks } := by
  obtain ⟨-, -, written⟩ := setTick_cases called
  rcases written with ⟨-, -, rfl⟩ | ⟨-, -, rfl⟩ | ⟨-, -, rfl⟩ | ⟨-, -, rfl⟩ <;> rfl

theorem updatedBoundary_spec {current : Option TickLiquidity} {netDelta : Int}
    {boundary : TickLiquidity}
    (updated : updatedBoundary current delta.natAbs netDelta (0 < delta) = .ok boundary) :
    (boundary.gross : Int) = (current.getD ⟨0, 0⟩).gross + delta ∧
      boundary.net = (current.getD ⟨0, 0⟩).net + netDelta ∧
      (boundary.gross = 0 → boundary.net = 0) := by
  simp only [updatedBoundary, bind_eq_ok, require_eq_ok, pure_eq_ok, exists_const, orError_eq_ok,
    checkedInt_eq_some] at updated
  obtain ⟨gross, grossUpdated, net, ⟨-, rfl⟩, closed, rfl⟩ := updated
  refine ⟨?_, rfl, fun zero => closed.resolve_left (not_not.mpr zero)⟩
  unfold updatedGross at grossUpdated
  split at grossUpdated
  · rename_i adding
    rw [orError_eq_ok, checkedAdd_eq_some] at grossUpdated
    simp only [decide_eq_true_eq] at adding
    simp only
    omega
  · rename_i removing
    rw [orError_eq_ok, checkedSub_eq_some] at grossUpdated
    simp only [decide_eq_true_eq] at removing
    simp only
    omega

theorem activeLiquidity_spec {active : Nat}
    (computed : pool.activeLiquidity uniswapV3Math tickLower tickUpper delta = .ok active) :
    (active : Int) =
      pool.liquidity + if tickLower ≤ pool.tick ∧ pool.tick < tickUpper then delta else 0 := by
  simp only [activeLiquidity, inRange, decide_eq_true_eq] at computed
  split at computed
  · rename_i inside
    rw [if_pos inside]
    rw [mapError_eq_ok] at computed
    simp only [uniswapV3Math] at computed
    split at computed
    · rw [orError_eq_ok, checkedSub_eq_some] at computed
      omega
    · rw [orError_eq_ok, checkedAdd_eq_some] at computed
      omega
  · rename_i outside
    cases computed
    rw [if_neg outside, add_zero]

/-- A delta adds its vector, and leaves everything but the map, the bitmap and the active liquidity. -/
theorem applyLiquidityDelta_holdings
    (called : pool.applyLiquidityDelta uniswapV3Math tickLower tickUpper delta = .ok next) :
    next.holdings = pool.holdings + deltaHoldings pool.tick tickLower tickUpper delta ∧
      next = { pool with
        tickBitmap := next.tickBitmap, ticks := next.ticks, liquidity := next.liquidity } := by
  simp only [applyLiquidityDelta, bind_eq_ok, require_eq_ok, exists_const] at called
  obtain ⟨nonempty, -, -, called⟩ := called
  split at called
  · rename_i zero
    cases called
    refine ⟨?_, rfl⟩
    subst zero
    simp [deltaHoldings]
  · simp only [moveLiquidity, bind_eq_ok, pure_eq_ok, orError_eq_ok, checkedInt_eq_some] at called
    obtain ⟨lower, atLower, _, ⟨-, rfl⟩, upper, atUpper, active, computed, first, setLower, second,
      setUpper, rfl⟩ := called
    obtain ⟨lowerGross, lowerNet, lowerEmpty⟩ := updatedBoundary_spec atLower
    obtain ⟨upperGross, upperNet, upperEmpty⟩ := updatedBoundary_spec atUpper
    have frame : second = { pool with tickBitmap := second.tickBitmap, ticks := second.ticks } := by
      rw [setTick_frame setUpper, setTick_frame setLower]
    have at_ (tick : Int) : second.position tick = if tickUpper = tick then upper
        else if tickLower = tick then lower else pool.position tick := by
      rw [setTick_position setUpper upperEmpty, setTick_position setLower lowerEmpty]
    refine ⟨Prod.ext ?_ (Prod.ext ?_ ?_), ?_⟩
    · funext tick
      change ((second.position tick).gross : Int) = (pool.position tick).gross +
        ((Pi.single tickLower delta : Int → Int) tick + (Pi.single tickUpper delta : Int → Int) tick)
      rw [at_, Pi.single_apply, Pi.single_apply]
      unfold position
      split_ifs <;> subst_vars <;> omega
    · funext tick
      change (second.position tick).net = (pool.position tick).net +
        ((Pi.single tickLower delta : Int → Int) tick - (Pi.single tickUpper delta : Int → Int) tick)
      rw [at_, Pi.single_apply, Pi.single_apply]
      unfold position
      split_ifs <;> subst_vars <;> omega
    · exact activeLiquidity_spec computed
    · rw [frame]

end Effect

/-! ## The pool behind its holdings -/

/-- The same pool: the same head and configuration, ticks and bits. -/
structure SamePool (pool other : ClmmPool) : Prop where
  frame : other = { pool with tickBitmap := other.tickBitmap, ticks := other.ticks }
  ticks : ∀ tick : Int, pool.ticks[tick]? = other.ticks[tick]?
  bits : ∀ index, TickBitmap.marked pool.tickBitmap index =
    TickBitmap.marked other.tickBitmap index

variable {pool : ClmmPool}

/-- An initialized tick has liquidity, so the map is known from the position at every tick. -/
theorem Sound.getElem?_eq (sound : pool.Sound) (tick : Int) :
    pool.ticks[tick]? =
      if (pool.position tick).gross = 0 then none else some (pool.position tick) := by
  unfold position
  rcases found : pool.ticks[tick]? with _ | state
  · rfl
  · rw [Option.getD_some, if_neg (sound.funded tick state found)]

theorem Sound.samePool {other : ClmmPool} (sound : pool.Sound) (otherSound : other.Sound)
    (holds : other.holdings = pool.holdings) (frame : other = { pool with
      tickBitmap := other.tickBitmap, ticks := other.ticks, liquidity := other.liquidity }) :
    SamePool pool other := by
  have gross (tick : Int) : ((other.position tick).gross : Int) = (pool.position tick).gross :=
    congrFun (congrArg Prod.fst holds) tick
  have net (tick : Int) : (other.position tick).net = (pool.position tick).net :=
    congrFun (congrArg (fun held => held.2.1) holds) tick
  have active : (other.liquidity : Int) = pool.liquidity := congrArg (fun held => held.2.2) holds
  have position (tick : Int) : other.position tick = pool.position tick := by
    have sameGross : (other.position tick).gross = (pool.position tick).gross := by
      exact_mod_cast gross tick
    exact congrArg₂ TickLiquidity.mk sameGross (net tick)
  have ticks (tick : Int) : pool.ticks[tick]? = other.ticks[tick]? := by
    rw [sound.getElem?_eq, otherSound.getElem?_eq, position]
  have scale : other.scale = pool.scale := by rw [frame]; rfl
  refine ⟨?_, ticks, ?_⟩
  · rw [frame]
    simp only [mk.injEq, true_and, and_true]
    omega
  · intro index
    have marks := sound.marks index
    have otherMarks := otherSound.marks index
    rw [scale, TreeMap.mem_iff_isSome_getElem?, ← ticks,
      ← TreeMap.mem_iff_isSome_getElem?, ← marks] at otherMarks
    exact (Bool.eq_iff_iff.mpr otherMarks).symm

/-! ## The active liquidity -/

/-- The net liquidity of the initialized ticks up to a tick. -/
def netUpTo (pool : ClmmPool) (tick : Int) : Int :=
  ((pool.ticks.keys.filter (· ≤ tick)).map fun other => (pool.position other).net).sum

/-- The active liquidity is what the ticks at or below the head have brought in. -/
def Backed (pool : ClmmPool) : Prop :=
  (pool.liquidity : Int) = pool.netUpTo pool.tick

instance (pool : ClmmPool) : Decidable pool.Backed :=
  inferInstanceAs (Decidable (_ = _))

theorem Sound.netUpTo_eq (sound : pool.Sound) (tick : Int) :
    pool.netUpTo tick = ∑ other ∈ Icc minTick tick, pool.holdings.2.1 other := by
  have nodup : (pool.ticks.keys.filter (· ≤ tick)).Nodup := pool.ticks.nodup_keys.filter _
  unfold netUpTo
  rw [← List.sum_toFinset _ nodup]
  apply Finset.sum_subset
  · intro other mem
    simp only [List.mem_toFinset, List.mem_filter, TreeMap.mem_keys, decide_eq_true_eq] at mem
    exact Finset.mem_Icc.mpr ⟨(sound.inside other mem.1).1, mem.2⟩
  · intro other mem absent
    simp only [List.mem_toFinset, List.mem_filter, TreeMap.mem_keys, decide_eq_true_eq,
      not_and] at absent
    have outside : other ∉ pool.ticks := fun held => absent held (Finset.mem_Icc.mp mem).2
    rw [position_of_not_mem outside]

variable {tickLower tickUpper : Int}

/-- Within the range of ticks, what a delta adds at or below the head is what it adds to the active
liquidity. -/
theorem sum_deltaHoldings {tick : Int} (nonempty : tickLower < tickUpper)
    (inside : minTick ≤ tickLower) (delta : Int) :
    ∑ other ∈ Icc minTick tick, (deltaHoldings tick tickLower tickUpper delta).2.1 other =
      (deltaHoldings tick tickLower tickUpper delta).2.2 := by
  change ∑ other ∈ Icc minTick tick, ((Pi.single tickLower delta : Int → Int) other -
    (Pi.single tickUpper delta : Int → Int) other) = if _ then _ else _
  rw [Finset.sum_sub_distrib, Finset.sum_pi_single', Finset.sum_pi_single']
  simp only [Finset.mem_Icc]
  split_ifs <;> omega

theorem Sound.backed_applyLiquidityDelta {next : ClmmPool} (sound : pool.Sound) {delta : Int}
    (called : pool.applyLiquidityDelta uniswapV3Math tickLower tickUpper delta = .ok next)
    (backed : pool.Backed) : next.Backed := by
  obtain ⟨adds, frame⟩ := applyLiquidityDelta_holdings called
  have range := called
  simp only [ClmmPool.applyLiquidityDelta, bind_eq_ok, require_eq_ok, exists_const] at range
  obtain ⟨nonempty, -, ⟨⟨inside, -⟩, -⟩, -⟩ := range
  have head : next.tick = pool.tick := by rw [frame]
  have active : (next.liquidity : Int) =
      pool.liquidity + (deltaHoldings pool.tick tickLower tickUpper delta).2.2 :=
    congrArg (fun held => held.2.2) adds
  have net : next.holdings.2.1 =
      pool.holdings.2.1 + (deltaHoldings pool.tick tickLower tickUpper delta).2.1 :=
    congrArg (fun held => held.2.1) adds
  unfold Backed at *
  rw [(sound.applyLiquidityDelta called).netUpTo_eq, head, net, active, backed, sound.netUpTo_eq]
  simp only [Pi.add_apply]
  rw [Finset.sum_add_distrib, sum_deltaHoldings nonempty inside]

/-! ## Deltas on a reachable pool -/

section Deltas

variable {pool middle next : ClmmPool} {tickLower tickUpper delta : Int}

/-- A delta and its opposite cancel. -/
theorem Sound.samePool_undo (sound : pool.Sound)
    (done : pool.applyLiquidityDelta uniswapV3Math tickLower tickUpper delta = .ok middle)
    (undone : middle.applyLiquidityDelta uniswapV3Math tickLower tickUpper (-delta) = .ok next) :
    SamePool pool next := by
  obtain ⟨adds, frame⟩ := applyLiquidityDelta_holdings done
  obtain ⟨subtracts, nextFrame⟩ := applyLiquidityDelta_holdings undone
  have head : middle.tick = pool.tick := by rw [frame]
  have last := (sound.applyLiquidityDelta done).applyLiquidityDelta undone
  apply sound.samePool last
  · rw [subtracts, adds, head, deltaHoldings_neg]
    abel
  · rw [nextFrame, frame]

/-- Two deltas commute. -/
theorem Sound.samePool_swap (sound : pool.Sound) {otherLower otherUpper otherDelta : Int}
    {otherMiddle otherNext : ClmmPool}
    (first : pool.applyLiquidityDelta uniswapV3Math tickLower tickUpper delta = .ok middle)
    (second : middle.applyLiquidityDelta uniswapV3Math otherLower otherUpper otherDelta = .ok next)
    (otherFirst : pool.applyLiquidityDelta uniswapV3Math otherLower otherUpper otherDelta =
      .ok otherMiddle)
    (otherSecond : otherMiddle.applyLiquidityDelta uniswapV3Math tickLower tickUpper delta =
      .ok otherNext) :
    SamePool next otherNext := by
  obtain ⟨adds, frame⟩ := applyLiquidityDelta_holdings first
  obtain ⟨thenAdds, nextFrame⟩ := applyLiquidityDelta_holdings second
  obtain ⟨otherAdds, otherFrame⟩ := applyLiquidityDelta_holdings otherFirst
  obtain ⟨otherThenAdds, otherNextFrame⟩ := applyLiquidityDelta_holdings otherSecond
  have head : middle.tick = pool.tick := by rw [frame]
  have otherHead : otherMiddle.tick = pool.tick := by rw [otherFrame]
  apply ((sound.applyLiquidityDelta first).applyLiquidityDelta second).samePool
    ((sound.applyLiquidityDelta otherFirst).applyLiquidityDelta otherSecond)
  · rw [thenAdds, adds, otherThenAdds, otherAdds, head, otherHead]
    abel
  · rw [otherNextFrame, otherFrame, nextFrame, frame]

/-- A delta does all of its writes or none; it keeps the active liquidity backed by the ticks below
the head; its opposite undoes it; and it commutes with every other delta. -/
structure AtomicDeltas (pool : ClmmPool) : Prop where
  unchanged : ∀ tickLower tickUpper delta failure left,
    (applyLiquidityDeltaInPlace tickLower tickUpper delta).exec pool = (.error failure, left) →
    left = pool
  backed : ∀ tickLower tickUpper delta next,
    (applyLiquidityDeltaInPlace tickLower tickUpper delta).exec pool = (.ok (), next) →
    pool.Backed → next.Backed
  undone : ∀ tickLower tickUpper delta middle next,
    (applyLiquidityDeltaInPlace tickLower tickUpper delta).exec pool = (.ok (), middle) →
    (applyLiquidityDeltaInPlace tickLower tickUpper (-delta)).exec middle = (.ok (), next) →
    SamePool pool next
  commutes : ∀ tickLower tickUpper delta otherLower otherUpper otherDelta
      middle next otherMiddle otherNext,
    (applyLiquidityDeltaInPlace tickLower tickUpper delta).exec pool = (.ok (), middle) →
    (applyLiquidityDeltaInPlace otherLower otherUpper otherDelta).exec middle = (.ok (), next) →
    (applyLiquidityDeltaInPlace otherLower otherUpper otherDelta).exec pool =
      (.ok (), otherMiddle) →
    (applyLiquidityDeltaInPlace tickLower tickUpper delta).exec otherMiddle =
      (.ok (), otherNext) →
    SamePool next otherNext

theorem liquidity_deltas_atomic_and_invertible (reachable : pool.Reachable) : pool.AtomicDeltas where
  unchanged tickLower tickUpper delta failure left ran :=
    ((applyLiquidityDeltaInPlace_transacts pool tickLower tickUpper delta).exec_error.mp ran).2
  backed tickLower tickUpper delta next ran :=
    reachable.sound.backed_applyLiquidityDelta
      ((applyLiquidityDeltaInPlace_transacts pool tickLower tickUpper delta).exec_ok.mp ran)
  undone tickLower tickUpper delta middle next done undone := by
    rw [(applyLiquidityDeltaInPlace_transacts _ _ _ _).exec_ok] at done undone
    exact reachable.sound.samePool_undo done undone
  commutes tickLower tickUpper delta otherLower otherUpper otherDelta middle next otherMiddle
      otherNext first second otherFirst otherSecond := by
    rw [(applyLiquidityDeltaInPlace_transacts _ _ _ _).exec_ok] at first second otherFirst otherSecond
    exact reachable.sound.samePool_swap first second otherFirst otherSecond

end Deltas

theorem call_eq_after (pool : ClmmPool) (request : PoolCall)
    (accepted : (pool.call request).toOption.isSome = true) :
    pool.call request = .ok (pool.after request) := by
  unfold after
  rcases called : pool.call request with failure | next
  · rw [called] at accepted
    cases accepted
  · rfl

/-- A pool with one position around its head. -/
def rangePool : ClmmPool :=
  ((fresh 3000 60 (2 ^ 96) 0 1000).after (.setTick (-60) 1000 1000)).after
    (.setTick 60 1000 (-1000))

theorem rangePool_reachable : rangePool.Reachable :=
  .after (.after (.fresh (by norm_num) rfl) trivial) trivial

/-- The position is burned whole, which removes both ticks, and minted again. -/
theorem rangePool_burned_and_minted :
    rangePool.Backed ∧ ∃ burned minted,
      (applyLiquidityDeltaInPlace (-60) 60 (-1000)).exec rangePool = (.ok (), burned) ∧
      burned.ticks.keys = [] ∧
      (applyLiquidityDeltaInPlace (-60) 60 1000).exec burned = (.ok (), minted) ∧
      SamePool rangePool minted := by
  have burns := call_eq_after rangePool (.applyLiquidityDelta (-60) 60 (-1000))
    (by decide +kernel)
  have mints := call_eq_after (rangePool.after (.applyLiquidityDelta (-60) 60 (-1000)))
    (.applyLiquidityDelta (-60) 60 1000) (by decide +kernel)
  have burned := (applyLiquidityDeltaInPlace_transacts _ (-60) 60 (-1000)).exec_ok.mpr burns
  have minted := (applyLiquidityDeltaInPlace_transacts _ (-60) 60 1000).exec_ok.mpr mints
  refine ⟨by decide +kernel, _, _, burned, by decide +kernel, minted, ?_⟩
  exact (liquidity_deltas_atomic_and_invertible rangePool_reachable).undone _ _ _ _ _ burned minted

end ClmmPool

end PolyBot.Dex
