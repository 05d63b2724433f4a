import PolyBot.Lib.TickBitmap
import PolyBot.Lib.TickMath
import PolyBot.Dex.Clmm

/-!
# The ticks of a pool and its bitmap

A quote moves from tick to tick by searching one word of the bitmap at a time.  The bitmap is kept in
two layouts: a bit for each multiple of the spacing, or, in Algebra's rows, a bit for each raw tick.
An initialized tick is priced by the tick library and the end of an empty word by a table that is
filled once for each spacing and layout.

* `ClmmPool.Reachable.sound`: whatever calls a pool has seen, its bits are exactly the ticks of its
  map.
* `ClmmPool.Sound.next`: what one search returns.
* `ClmmPool.Sound.initialized_mem`, `ClmmPool.Sound.cached`: a search never names a tick that is
  missing from the map or from the table.
-/

namespace PolyBot.Dex

open TickBitmap

/-- A tick moved into the range of ticks that have a price. -/
def clampTick (tick : Int) : Int :=
  max minTick (min tick maxTick)

/-- The search of one row of raw ticks. -/
def nextAlgebraTickInSameRow (tickTable : TickBitmap) (tick : Int) (zeroForOne : Bool) :
    Int × Bool :=
  let searchTick := if zeroForOne then tick else tick + 1
  let word := searchTick / 256
  let bit := (searchTick % 256).toNat
  let row := tickTable.row word
  if zeroForOne then
    let masked := row &&& lowMask bit
    if masked = 0 then (clampTick (word * 256), false)
    else (clampTick (word * 256 + mostSignificantBit masked), true)
  else
    let masked := row &&& highMask bit
    if masked = 0 then (clampTick (word * 256 + 255), false)
    else (clampTick (word * 256 + leastSignificantBit masked), true)

/-- What one bit of the bitmap stands for: a multiple of the spacing, or a raw tick. -/
def TickTraversal.scale (tickSpacing : Int) : TickTraversal → Int
  | spacingCompressed => tickSpacing
  | algebraRaw => 1

/-- The two ends of every word, clamped, and the two end ticks. -/
def wordBoundaryTicks (tickSpacing : Int) (tickTraversal : TickTraversal) : List Int :=
  let scale := tickTraversal.scale tickSpacing
  let minimumWord := minTick / scale / 256
  let maximumWord := maxTick / scale / 256
  let words := (List.range (maximumWord - minimumWord + 1).toNat).map fun k : Nat => minimumWord + k
  words.flatMap (fun word => [clampTick (word * 256 * scale), clampTick ((word * 256 + 255) * scale)])
    ++ [minTick, maxTick]

namespace ClmmPool

def feePipsForDirection (pool : ClmmPool) (zeroForOne : Bool) : Nat :=
  if zeroForOne then pool.feePips else pool.oneForZeroFeePips

def nextInitializedTick (pool : ClmmPool) (tick : Int) (zeroForOne : Bool) : Int × Bool :=
  match pool.tickTraversal with
  | .spacingCompressed =>
    nextInitializedTickWithinOneWord pool.tickBitmap tick pool.tickSpacing zeroForOne
  | .algebraRaw => nextAlgebraTickInSameRow pool.tickBitmap tick zeroForOne

/-- The search with the library's `i32` product. -/
def nextInitializedTickI32 (pool : ClmmPool) (tick : Int) (zeroForOne : Bool) : Int × Bool :=
  match pool.tickTraversal with
  | .spacingCompressed =>
    TickBitmap.nextInitializedTickI32 pool.tickBitmap tick pool.tickSpacing zeroForOne
  | .algebraRaw => nextAlgebraTickInSameRow pool.tickBitmap tick zeroForOne

/-- The table of word-boundary prices. -/
def wordBoundarySqrtRatio (pool : ClmmPool) (tick : Int) : Option Nat :=
  if tick ∈ wordBoundaryTicks pool.tickSpacing pool.tickTraversal then
    TickMath.getSqrtRatioAtTick tick
  else none

def scale (pool : ClmmPool) : Int :=
  pool.tickTraversal.scale pool.tickSpacing

/-! ## Calls -/

end ClmmPool

/-- A call that may change a pool after it has been constructed. -/
inductive PoolCall
  | setTick (index : Int) (gross : Nat) (net : Int)
  | applyLiquidityDelta (tickLower tickUpper delta : Int)
  | applySwapHead (sqrtPriceX96 : Nat) (tick : Int) (liquidity : Nat)
  | setAlgebraDirectionalFees (feeZeroForOnePips feeOneForZeroPips : Nat)
  | setAlgebraSingleFee (feePips : Nat)

/-- The arguments are values of the source's types where a width matters: `u128` and `u16`. -/
def PoolCall.Typed : PoolCall → Prop
  | applySwapHead _ _ liquidity => liquidity < 2 ^ 128
  | setAlgebraSingleFee feePips => feePips < 2 ^ 16
  | _ => True

namespace ClmmPool

def call (pool : ClmmPool) : PoolCall → Except String ClmmPool
  | .setTick index gross net => pool.setTick uniswapV3Math index gross net
  | .applyLiquidityDelta tickLower tickUpper delta =>
    pool.applyLiquidityDelta uniswapV3Math tickLower tickUpper delta
  | .applySwapHead sqrtPriceX96 tick liquidity => pool.applySwapHead sqrtPriceX96 tick liquidity
  | .setAlgebraDirectionalFees feeZeroForOnePips feeOneForZeroPips =>
    pool.setAlgebraDirectionalFees feeZeroForOnePips feeOneForZeroPips
  | .setAlgebraSingleFee feePips => pool.setAlgebraSingleFee feePips

/-- The pool after a call.  A call that fails has written nothing: each one makes its checks first,
and what `applyLiquidityDelta` does after its own checks cannot fail, by `setTick_succeeds`. -/
def after (pool : ClmmPool) (request : PoolCall) : ClmmPool :=
  match pool.call request with
  | .ok next => next
  | .error _ => pool

/-- The pools that some sequence of calls leads to. -/
inductive Reachable : ClmmPool → Prop
  | new {feePips : Nat} {tickSpacing : Int} {sqrtPriceX96 : Nat} {tick : Int} {liquidity : Nat}
      {pool : ClmmPool} (typed : liquidity < 2 ^ 128)
      (built : ClmmPool.new feePips tickSpacing sqrtPriceX96 tick liquidity = .ok pool) :
      Reachable pool
  | newAlgebraV19 {feeZeroForOnePips feeOneForZeroPips : Nat} {tickSpacing : Int}
      {sqrtPriceX96 : Nat} {tick : Int} {liquidity : Nat} {pool : ClmmPool}
      (typed : liquidity < 2 ^ 128)
      (built : ClmmPool.newAlgebraV19 feeZeroForOnePips feeOneForZeroPips tickSpacing sqrtPriceX96
        tick liquidity = .ok pool) : Reachable pool
  | newSingleFeeAlgebraV19 {feePips : Nat} {tickSpacing : Int} {sqrtPriceX96 : Nat} {tick : Int}
      {liquidity : Nat} {pool : ClmmPool} (typed : liquidity < 2 ^ 128)
      (built : ClmmPool.newSingleFeeAlgebraV19 feePips tickSpacing sqrtPriceX96 tick liquidity =
        .ok pool) : Reachable pool
  | after {pool : ClmmPool} {request : PoolCall} (before : Reachable pool)
      (typed : request.Typed) : Reachable (pool.after request)

/-- A pool with one static fee as its constructor leaves it. -/
def fresh (feePips : Nat) (tickSpacing : Int) (sqrtPriceX96 : Nat) (tick : Int) (liquidity : Nat) :
    ClmmPool :=
  ⟨feePips, feePips, tickSpacing, sqrtPriceX96, tick, liquidity, ∅, ∅, .spacingCompressed, .static⟩

theorem Reachable.fresh {feePips : Nat} {tickSpacing : Int} {sqrtPriceX96 : Nat} {tick : Int}
    {liquidity : Nat} (typed : liquidity < 2 ^ 128)
    (built : ClmmPool.new feePips tickSpacing sqrtPriceX96 tick liquidity =
      .ok (ClmmPool.fresh feePips tickSpacing sqrtPriceX96 tick liquidity)) :
    (ClmmPool.fresh feePips tickSpacing sqrtPriceX96 tick liquidity).Reachable :=
  .new typed built

/-- The tick of the head is that of its price. -/
def Coherent (pool : ClmmPool) : Prop :=
  (TickMath.getSqrtRatioAtTick pool.tick).any (· ≤ pool.sqrtPriceX96) ∧
    (TickMath.getSqrtRatioAtTick (pool.tick + 1)).all (pool.sqrtPriceX96 < ·)

instance (pool : ClmmPool) : Decidable pool.Coherent :=
  inferInstanceAs (Decidable (_ ∧ _))

/-! ## The invariant -/

/-- What every constructor establishes and every call keeps: the ranges of the head and the fees, and
that the bits of the bitmap are the ticks of the map. -/
structure Sound (pool : ClmmPool) : Prop where
  fees : pool.feePips < 1000000 ∧ pool.oneForZeroFeePips < 1000000
  spacing : 0 < pool.tickSpacing
  price : minSqrtRatio ≤ pool.sqrtPriceX96 ∧ pool.sqrtPriceX96 < maxSqrtRatio
  head : minTick ≤ pool.tick ∧ pool.tick ≤ maxTick
  active : pool.liquidity < 2 ^ 128
  marks : ∀ index, marked pool.tickBitmap index = true ↔
    index * pool.scale ∈ pool.ticks
  aligned : ∀ tick ∈ pool.ticks, pool.scale ∣ tick
  inside : ∀ tick ∈ pool.ticks, minTick ≤ tick ∧ tick ≤ maxTick
  funded : ∀ (tick : Int) (state : TickLiquidity), pool.ticks[tick]? = some state →
    state.gross ≠ 0

variable {pool next : ClmmPool} {tick index net delta : Int} {gross liquidity : Nat}
  {ticks : Std.TreeMap Int TickLiquidity}

theorem scale_pos (spacing : 0 < pool.tickSpacing) : 0 < pool.scale := by
  unfold scale
  cases pool.tickTraversal with
  | spacingCompressed => exact spacing
  | algebraRaw => exact Int.one_pos

theorem scale_dvd (divides : tick.tmod pool.tickSpacing = 0) : pool.scale ∣ tick := by
  unfold scale
  cases pool.tickTraversal with
  | spacingCompressed => exact Int.dvd_of_tmod_eq_zero divides
  | algebraRaw => exact one_dvd tick

/-- A flip of a tick that is aligned and in range cannot fail. -/
theorem flipTick_eq_ok (divides : tick.tmod pool.tickSpacing = 0)
    (range : minTick ≤ tick ∧ tick ≤ maxTick) :
    pool.flipTick uniswapV3Math tick =
      .ok { pool with tickBitmap := flip pool.tickBitmap (tick / pool.scale) } := by
  unfold flipTick scale
  cases pool.tickTraversal with
  | spacingCompressed =>
    have quotient : tick.tdiv pool.tickSpacing = tick / pool.tickSpacing :=
      Int.tdiv_eq_ediv_of_dvd (Int.dvd_of_tmod_eq_zero divides)
    simp only [uniswapV3Math, require_of divides, ok_bind, quotient]
    rfl
  | algebraRaw =>
    unfold minTick maxTick at range
    have word : checkedInt 16 (tick / 256) = some (tick / 256) :=
      checkedInt_eq_some.mpr ⟨by omega, rfl⟩
    simp only [word, orError, ok_bind, TickTraversal.scale, Int.ediv_one]
    rfl

theorem setTick_succeeds (gross : Nat) (net : Int) (divides : index.tmod pool.tickSpacing = 0)
    (range : minTick ≤ index ∧ index ≤ maxTick) :
    ∃ next, pool.setTick uniswapV3Math index gross net = .ok next ∧
      next.tickSpacing = pool.tickSpacing := by
  have flipped := flipTick_eq_ok divides range
  simp only [setTick, require_of divides, require_of range, ok_bind, flipped, Except.mapError]
  split <;> exact ⟨_, rfl, rfl⟩

/-- All that `setTick` can do. -/
theorem setTick_cases (called : pool.setTick uniswapV3Math index gross net = .ok next) :
    index.tmod pool.tickSpacing = 0 ∧ (minTick ≤ index ∧ index ≤ maxTick) ∧
      ((index ∉ pool.ticks ∧ gross = 0 ∧ next = pool) ∨
      (index ∉ pool.ticks ∧ gross ≠ 0 ∧ next = { pool with
        tickBitmap := flip pool.tickBitmap (index / pool.scale)
        ticks := pool.ticks.insert index ⟨gross, net⟩ }) ∨
      (index ∈ pool.ticks ∧ gross = 0 ∧ next = { pool with
        tickBitmap := flip pool.tickBitmap (index / pool.scale)
        ticks := pool.ticks.erase index }) ∨
      (index ∈ pool.ticks ∧ gross ≠ 0 ∧ next = { pool with
        ticks := pool.ticks.insert index ⟨gross, net⟩ })) := by
  simp only [setTick, bind_eq_ok, require_eq_ok, exists_const] at called
  obtain ⟨divides, range, called⟩ := called
  refine ⟨divides, range, ?_⟩
  rw [flipTick_eq_ok divides range] at called
  rcases present : pool.ticks[index]? with _ | state <;> rw [present] at called
  · have absent : index ∉ pool.ticks := by
      rw [Std.TreeMap.mem_iff_isSome_getElem?, present]
      simp
    rcases gross with _ | gross
    · exact Or.inl ⟨absent, rfl, (Except.ok.inj called).symm⟩
    · exact Or.inr (Or.inl ⟨absent, by omega, (Except.ok.inj called).symm⟩)
  · have held : index ∈ pool.ticks := by
      rw [Std.TreeMap.mem_iff_isSome_getElem?, present]
      rfl
    rcases gross with _ | gross
    · exact Or.inr (Or.inr (Or.inl ⟨held, rfl, (Except.ok.inj called).symm⟩))
    · exact Or.inr (Or.inr (Or.inr ⟨held, by omega, (Except.ok.inj called).symm⟩))

/-- A tick is where a bit stands exactly when the bit is where the tick stands. -/
theorem Sound.index_iff (sound : pool.Sound) (divides : pool.scale ∣ tick) :
    tick / pool.scale = index ↔ tick = index * pool.scale :=
  Int.ediv_eq_iff_eq_mul_left (ne_of_gt (scale_pos sound.spacing)) divides

/-- A toggled bit together with the tick entered or erased. -/
theorem Sound.marks_flip (sound : pool.Sound) (divides : pool.scale ∣ tick)
    (here : tick ∈ ticks ↔ tick ∉ pool.ticks)
    (others : ∀ other, tick ≠ other → (other ∈ ticks ↔ other ∈ pool.ticks)) (index : Int) :
    marked (flip pool.tickBitmap (tick / pool.scale)) index = true ↔
      index * pool.scale ∈ ticks := by
  have marks := sound.marks index
  rw [marked_flip]
  by_cases same : tick = index * pool.scale
  · rw [if_pos ((sound.index_iff divides).mpr same), ← same, here, same, ← marks]
    simp
  · rw [if_neg (fun eq => same ((sound.index_iff divides).mp eq)), others _ same, marks]

variable {other tickLower tickUpper : Int} {bitmap : TickBitmap} {active : Nat}

theorem mem_insert_tick {state : TickLiquidity} :
    other ∈ ticks.insert index state ↔ index = other ∨ other ∈ ticks := by
  rw [Std.TreeMap.mem_insert, Std.LawfulEqOrd.compare_eq_iff_eq]

theorem mem_erase_tick : other ∈ ticks.erase index ↔ index ≠ other ∧ other ∈ ticks := by
  rw [Std.TreeMap.mem_erase, Ne, Std.LawfulEqOrd.compare_eq_iff_eq]

/-- An entered tick keeps the invariant, given that the bits follow. -/
theorem Sound.insert (sound : pool.Sound) (divides : pool.scale ∣ index)
    (range : minTick ≤ index ∧ index ≤ maxTick) (positive : gross ≠ 0)
    (marks : ∀ other, marked bitmap other = true ↔
      other * pool.scale ∈ pool.ticks.insert index ⟨gross, net⟩) :
    Sound { pool with tickBitmap := bitmap, ticks := pool.ticks.insert index ⟨gross, net⟩ } := by
  refine { sound with marks := marks, aligned := ?_, inside := ?_, funded := ?_ }
  · intro tick mem
    rcases mem_insert_tick.mp mem with rfl | mem
    · exact divides
    · exact sound.aligned tick mem
  · intro tick mem
    rcases mem_insert_tick.mp mem with rfl | mem
    · exact range
    · exact sound.inside tick mem
  · intro tick state found
    rw [Std.TreeMap.getElem?_insert] at found
    split at found
    · cases found
      exact positive
    · exact sound.funded tick state found

theorem Sound.erase (sound : pool.Sound) (marks : ∀ other, marked bitmap other = true ↔
      other * pool.scale ∈ pool.ticks.erase index) :
    Sound { pool with tickBitmap := bitmap, ticks := pool.ticks.erase index } := by
  refine { sound with
    marks := marks
    aligned := fun tick mem => sound.aligned tick (mem_erase_tick.mp mem).2
    inside := fun tick mem => sound.inside tick (mem_erase_tick.mp mem).2
    funded := fun tick state found => ?_ }
  rw [Std.TreeMap.getElem?_erase] at found
  split at found
  · cases found
  · exact sound.funded tick state found

theorem Sound.setTick (sound : pool.Sound)
    (called : pool.setTick uniswapV3Math index gross net = .ok next) : next.Sound := by
  obtain ⟨tmod, range, written⟩ := setTick_cases called
  have divides : pool.scale ∣ index := scale_dvd tmod
  rcases written with ⟨-, -, rfl⟩ | ⟨absent, positive, rfl⟩ | ⟨held, -, rfl⟩ | ⟨held, positive, rfl⟩
  · exact sound
  · apply sound.insert divides range positive
    apply sound.marks_flip divides
    · simp [absent]
    · intro other ne
      simp [ne]
  · apply sound.erase
    apply sound.marks_flip divides
    · simp [held]
    · intro other ne
      simp [ne]
  · apply sound.insert divides range positive
    intro other
    rw [sound.marks, mem_insert_tick]
    constructor
    · exact Or.inr
    · rintro (rfl | mem)
      · exact held
      · exact mem

/-- A new active liquidity leaves the ticks alone. -/
theorem Sound.withLiquidity (sound : pool.Sound) (fits : liquidity < 2 ^ 128) :
    Sound { pool with liquidity := liquidity } :=
  { sound with active := fits }

theorem addDelta_lt (fits : liquidity < 2 ^ 128)
    (added : uniswapV3Math.addDelta liquidity delta = .ok active) : active < 2 ^ 128 := by
  simp only [uniswapV3Math] at added
  split at added
  · rw [orError_eq_ok, checkedSub_eq_some] at added
    omega
  · rw [orError_eq_ok, checkedAdd_eq_some] at added
    omega

theorem activeLiquidity_lt (sound : pool.Sound)
    (computed : pool.activeLiquidity uniswapV3Math tickLower tickUpper delta = .ok active) :
    active < 2 ^ 128 := by
  unfold activeLiquidity at computed
  split at computed
  · exact addDelta_lt sound.active (mapError_eq_ok.mp computed)
  · cases computed
    exact sound.active

theorem Sound.applyLiquidityDelta (sound : pool.Sound)
    (called : pool.applyLiquidityDelta uniswapV3Math tickLower tickUpper delta = .ok next) :
    next.Sound := by
  simp only [ClmmPool.applyLiquidityDelta, bind_eq_ok, require_eq_ok, exists_const] at called
  obtain ⟨-, -, -, called⟩ := called
  split at called
  · cases called
    exact sound
  · simp only [moveLiquidity, bind_eq_ok, pure_eq_ok] at called
    obtain ⟨lower, -, upperNetDelta, -, upper, -, active, computed, first, setLower, second,
      setUpper, rfl⟩ := called
    exact ((sound.setTick setLower).setTick setUpper).withLiquidity (activeLiquidity_lt sound computed)

theorem Sound.call (sound : pool.Sound) {request : PoolCall} (typed : request.Typed)
    (called : pool.call request = .ok next) : next.Sound := by
  cases request with
  | setTick index gross net => exact sound.setTick called
  | applyLiquidityDelta tickLower tickUpper delta => exact sound.applyLiquidityDelta called
  | applySwapHead sqrtPriceX96 tick liquidity =>
    obtain ⟨price, head, -, rfl⟩ := applySwapHead_eq_ok.mp called
    exact { sound with price := price, head := head, active := typed }
  | setAlgebraDirectionalFees feeZeroForOnePips feeOneForZeroPips =>
    simp only [ClmmPool.call, setAlgebraDirectionalFees, bind_eq_ok, require_eq_ok, exists_const,
      pure_eq_ok] at called
    obtain ⟨-, fees, rfl⟩ := called
    exact { sound with fees := fees }
  | setAlgebraSingleFee feePips =>
    simp only [ClmmPool.call, setAlgebraSingleFee, bind_eq_ok, require_eq_ok, exists_const,
      pure_eq_ok] at called
    obtain ⟨-, rfl⟩ := called
    have narrow : feePips < 2 ^ 16 := typed
    have small : feePips < 1000000 := by omega
    exact { sound with fees := ⟨small, small⟩ }

theorem newWithProfile_sound {feeZeroForOnePips feeOneForZeroPips : Nat} {tickSpacing : Int}
    {sqrtPriceX96 : Nat} {feeProfile : FeeProfile} (typed : liquidity < 2 ^ 128)
    (built : newWithProfile feeZeroForOnePips feeOneForZeroPips tickSpacing sqrtPriceX96 tick
      liquidity feeProfile = .ok pool) : pool.Sound := by
  simp only [newWithProfile, bind_eq_ok, require_eq_ok, exists_const, pure_eq_ok] at built
  obtain ⟨fees, spacing, head, price, -, rfl⟩ := built
  refine ⟨fees, spacing, price, head, typed, ?_, ?_, ?_, ?_⟩
  · intro index
    rw [marked_empty]
    simp
  · intro tick mem
    simp at mem
  · intro tick mem
    simp at mem
  · intro tick state found
    simp at found

/-- Whatever calls a pool has seen, its bits are exactly the ticks of its map. -/
theorem Reachable.sound (reachable : pool.Reachable) : pool.Sound := by
  induction reachable with
  | new typed built | newAlgebraV19 typed built | newSingleFeeAlgebraV19 typed built =>
    exact newWithProfile_sound typed built
  | @after pool request before typed ih =>
    unfold ClmmPool.after
    rcases called : pool.call request with message | next
    · exact ih
    · exact ih.call typed called

/-! ## Searching -/

end ClmmPool

theorem nextAlgebraTickInSameRow_eq (tickTable : TickBitmap) (tick : Int) (zeroForOne : Bool) :
    nextAlgebraTickInSameRow tickTable tick zeroForOne =
      let found := if zeroForOne then tickTable.searchDown tick else tickTable.searchUp (tick + 1)
      (clampTick found.1, found.2) := by
  have split : ∀ index : Int, index / 256 * 256 = index - (index % 256).toNat := by
    intro index
    omega
  cases zeroForOne with
  | true =>
    simp only [nextAlgebraTickInSameRow, searchDown, if_true, split]
    split_ifs with masked
    · rfl
    · simp only [Prod.mk.injEq, and_true]
      congr 1
      omega
  | false =>
    simp only [nextAlgebraTickInSameRow, searchUp, Bool.false_eq_true, if_false, split]
    split_ifs with masked
    · simp only [Prod.mk.injEq, and_true]
      congr 1
      omega
    · simp only [Prod.mk.injEq, and_true]
      congr 1
      omega

theorem clampTick_of_mem {tick : Int} (range : minTick ≤ tick ∧ tick ≤ maxTick) :
    clampTick tick = tick := by
  unfold clampTick
  omega

theorem clampTick_range (tick : Int) : minTick ≤ clampTick tick ∧ clampTick tick ≤ maxTick := by
  unfold clampTick minTick maxTick
  omega

/-- The clamped ends of every word are in the table, also of the words outside the range. -/
theorem clampTick_mem_wordBoundaryTicks {tickSpacing : Int} {tickTraversal : TickTraversal}
    (positive : 0 < tickTraversal.scale tickSpacing) {word index : Int}
    (boundary : index = word * 256 ∨ index = word * 256 + 255) :
    clampTick (index * tickTraversal.scale tickSpacing) ∈
      wordBoundaryTicks tickSpacing tickTraversal := by
  unfold wordBoundaryTicks
  generalize tickTraversal.scale tickSpacing = scale at positive ⊢
  simp only [List.mem_append, List.mem_flatMap, List.mem_map, List.mem_range, List.mem_cons,
    List.not_mem_nil, or_false]
  by_cases below : word < minTick / scale / 256
  · -- the whole word lies below the range
    have less : index * scale < minTick := by
      have step : index + 1 ≤ minTick / scale := by omega
      have grown := Int.mul_le_mul_of_nonneg_right step positive.le
      have cut := Int.ediv_mul_le minTick positive.ne'
      nlinarith
    refine Or.inr (Or.inl ?_)
    unfold clampTick minTick maxTick at *
    omega
  · by_cases above : maxTick / scale / 256 < word
    · have more : maxTick < index * scale := by
        have step : maxTick / scale + 1 ≤ index := by omega
        have grown := Int.mul_le_mul_of_nonneg_right step positive.le
        have cut := Int.lt_ediv_add_one_mul_self maxTick positive
        omega
      refine Or.inr (Or.inr ?_)
      unfold clampTick minTick maxTick at *
      omega
    · refine Or.inl ⟨word, ⟨(word - minTick / scale / 256).toNat, by omega, by omega⟩, ?_⟩
      rcases boundary with rfl | rfl
      · exact Or.inl rfl
      · exact Or.inr rfl

/-- `other` lies after the start of a search and before what it found: the start counts as passed
when going down and not when going up. -/
def Passed (zeroForOne : Bool) (start found other : Int) : Prop :=
  if zeroForOne then found < other ∧ other ≤ start else start < other ∧ other < found

namespace ClmmPool

/-- The search of a word of bits. -/
def searchWord (pool : ClmmPool) (tick : Int) (zeroForOne : Bool) : Int × Bool :=
  if zeroForOne then searchDown pool.tickBitmap (tick / pool.scale)
  else searchUp pool.tickBitmap (tick / pool.scale + 1)

variable {pool : ClmmPool} {tick : Int} {zeroForOne : Bool}

/-- The two layouts differ in the scale of a bit, and in that the raw one clamps its result. -/
theorem nextInitializedTick_eq (spacing : 0 < pool.tickSpacing) (tick : Int) (zeroForOne : Bool) :
    pool.nextInitializedTick tick zeroForOne =
      match pool.tickTraversal with
      | .spacingCompressed =>
        ((pool.searchWord tick zeroForOne).1 * pool.scale, (pool.searchWord tick zeroForOne).2)
      | .algebraRaw => (clampTick ((pool.searchWord tick zeroForOne).1 * pool.scale),
        (pool.searchWord tick zeroForOne).2) := by
  unfold nextInitializedTick searchWord scale
  cases pool.tickTraversal with
  | spacingCompressed =>
    simp only [nextInitializedTickWithinOneWord, compress_eq_ediv spacing,
      TickTraversal.scale]
  | algebraRaw =>
    simp only [nextAlgebraTickInSameRow_eq, TickTraversal.scale, Int.ediv_one, Int.mul_one]

/-- A search that finds nothing returns the end of its word. -/
theorem searchWord_end (unset : (pool.searchWord tick zeroForOne).2 = false) :
    (pool.searchWord tick zeroForOne).1 % 256 = if zeroForOne then 0 else 255 := by
  cases zeroForOne with
  | true =>
    have word := (searchDown_spec pool.tickBitmap (tick / pool.scale)).word unset
    change (searchDown pool.tickBitmap (tick / pool.scale)).1 % 256 = 0
    omega
  | false =>
    have word := (searchUp_spec pool.tickBitmap (tick / pool.scale + 1)).word unset
    change (searchUp pool.tickBitmap (tick / pool.scale + 1)).1 % 256 = 255
    omega

/-- What a search of a word finds, as ticks. -/
structure FoundTick (pool : ClmmPool) (tick : Int) (zeroForOne : Bool) (found : Int)
    (initialized : Bool) : Prop where
  flag : initialized = true ↔ found ∈ pool.ticks
  passed : ∀ other ∈ pool.ticks, ¬ Passed zeroForOne tick found other
  side : if zeroForOne then found ≤ tick else tick < found
  boundary : initialized = false →
    clampTick found ∈ wordBoundaryTicks pool.tickSpacing pool.tickTraversal

theorem Sound.unmarked (sound : pool.Sound) {other : Int} (mem : other ∈ pool.ticks)
    (unset : marked pool.tickBitmap (other / pool.scale) =
      false) : False := by
  have exact : other / pool.scale * pool.scale = other :=
    Int.ediv_mul_cancel (sound.aligned other mem)
  have set := (sound.marks (other / pool.scale)).mpr (exact.symm ▸ mem)
  rw [unset] at set
  cases set

theorem Sound.foundTick (sound : pool.Sound) (tick : Int) (zeroForOne : Bool) :
    FoundTick pool tick zeroForOne ((pool.searchWord tick zeroForOne).1 * pool.scale)
      (pool.searchWord tick zeroForOne).2 := by
  have positive : 0 < pool.scale := scale_pos sound.spacing
  unfold searchWord
  cases zeroForOne with
  | true =>
    simp only [if_true]
    have spec := searchDown_spec pool.tickBitmap (tick / pool.scale)
    generalize searchDown pool.tickBitmap (tick / pool.scale) = found at spec ⊢
    refine ⟨?_, ?_, ?_, ?_⟩
    · rw [spec.flag]
      exact sound.marks found.1
    · rintro other mem ⟨above, atMost⟩
      have lower : found.1 < other / pool.scale := by
        have aligned := Int.ediv_mul_cancel (sound.aligned other mem)
        by_contra le
        have grown := Int.mul_le_mul_of_nonneg_right (Int.not_lt.mp le) positive.le
        omega
      have upper : other / pool.scale ≤ tick / pool.scale := Int.ediv_le_ediv positive atMost
      exact sound.unmarked mem (spec.between _ lower upper)
    · exact (Int.le_ediv_iff_mul_le positive).mp spec.below
    · intro unset
      exact clampTick_mem_wordBoundaryTicks positive (Or.inl (spec.word unset))
  | false =>
    simp only [Bool.false_eq_true, if_false]
    have spec := searchUp_spec pool.tickBitmap (tick / pool.scale + 1)
    generalize searchUp pool.tickBitmap (tick / pool.scale + 1) = found at spec ⊢
    refine ⟨?_, ?_, ?_, ?_⟩
    · rw [spec.flag]
      exact sound.marks found.1
    · rintro other mem ⟨above, below⟩
      have aligned := Int.ediv_mul_cancel (sound.aligned other mem)
      have lower : tick / pool.scale + 1 ≤ other / pool.scale := by
        by_contra less
        have grown : other / pool.scale * pool.scale ≤ tick / pool.scale * pool.scale :=
          Int.mul_le_mul_of_nonneg_right (by omega) positive.le
        have cut := Int.ediv_mul_le tick positive.ne'
        omega
      have upper : other / pool.scale < found.1 := by
        by_contra le
        have grown := Int.mul_le_mul_of_nonneg_right (Int.not_lt.mp le) positive.le
        omega
      exact sound.unmarked mem (spec.between _ lower upper)
    · have grown := Int.mul_le_mul_of_nonneg_right spec.above positive.le
      have cut := Int.lt_ediv_add_one_mul_self tick positive
      exact lt_of_lt_of_le cut grown
    · intro unset
      exact clampTick_mem_wordBoundaryTicks positive (Or.inr (spec.word unset))

theorem clampTick_clampTick (tick : Int) : clampTick (clampTick tick) = clampTick tick :=
  clampTick_of_mem (clampTick_range tick)

section

variable (sound : pool.Sound)
include sound

/-- The spacing of a pool contract is an `int24`, and then nothing wraps. -/
theorem Sound.nextInitializedTickI32_eq (int24 : pool.tickSpacing < 2 ^ 23)
    (low : minTick - 1 ≤ tick) (high : tick ≤ maxTick) :
    pool.nextInitializedTickI32 tick zeroForOne = pool.nextInitializedTick tick zeroForOne := by
  unfold minTick at low
  unfold maxTick at high
  unfold nextInitializedTickI32 nextInitializedTick
  cases pool.tickTraversal with
  | spacingCompressed =>
    exact TickBitmap.nextInitializedTickI32_eq _ sound.spacing int24 (by omega) (by omega)
  | algebraRaw => rfl

/-- Clamped, the result of a search is that of the word, in both layouts. -/
theorem Sound.clamped_eq (tick : Int) (zeroForOne : Bool) :
    clampTick (pool.nextInitializedTick tick zeroForOne).1 =
        clampTick ((pool.searchWord tick zeroForOne).1 * pool.scale) ∧
      (pool.nextInitializedTick tick zeroForOne).2 = (pool.searchWord tick zeroForOne).2 := by
  rw [nextInitializedTick_eq sound.spacing]
  cases pool.tickTraversal with
  | spacingCompressed => exact ⟨rfl, rfl⟩
  | algebraRaw => exact ⟨clampTick_clampTick _, rfl⟩

/-- An initialized result is in the map of ticks. -/
theorem Sound.initialized_mem (initialized : (pool.nextInitializedTick tick zeroForOne).2 = true) :
    clampTick (pool.nextInitializedTick tick zeroForOne).1 ∈ pool.ticks := by
  obtain ⟨clamped, flag⟩ := sound.clamped_eq tick zeroForOne
  have mem := (sound.foundTick tick zeroForOne).flag.mp (flag ▸ initialized)
  rw [clamped, clampTick_of_mem (sound.inside _ mem)]
  exact mem

/-- An uninitialized result, clamped, is in the table of word boundaries. -/
theorem Sound.cached (uninitialized : (pool.nextInitializedTick tick zeroForOne).2 = false) :
    clampTick (pool.nextInitializedTick tick zeroForOne).1 ∈
      wordBoundaryTicks pool.tickSpacing pool.tickTraversal := by
  obtain ⟨clamped, flag⟩ := sound.clamped_eq tick zeroForOne
  rw [clamped]
  exact (sound.foundTick tick zeroForOne).boundary (flag ▸ uninitialized)

/-- Each step down leaves the tick it started from behind. -/
theorem Sound.clamped_le (inside : minTick ≤ tick) :
    clampTick (pool.nextInitializedTick tick true).1 ≤ tick := by
  have side : (pool.searchWord tick true).1 * pool.scale ≤ tick := (sound.foundTick tick true).side
  rw [(sound.clamped_eq tick true).1]
  unfold clampTick
  omega

theorem Sound.lt_clamped (inside : tick < maxTick) :
    tick < clampTick (pool.nextInitializedTick tick false).1 := by
  have side : tick < (pool.searchWord tick false).1 * pool.scale := (sound.foundTick tick false).side
  rw [(sound.clamped_eq tick false).1]
  unfold clampTick
  omega

/-- From outside the range a search ends at its end. -/
theorem Sound.clamped_below (outside : tick < minTick) :
    clampTick (pool.nextInitializedTick tick true).1 = minTick := by
  have side : (pool.searchWord tick true).1 * pool.scale ≤ tick := (sound.foundTick tick true).side
  rw [(sound.clamped_eq tick true).1]
  unfold clampTick minTick maxTick at *
  omega

theorem Sound.clamped_above (outside : maxTick ≤ tick) :
    clampTick (pool.nextInitializedTick tick false).1 = maxTick := by
  have side : tick < (pool.searchWord tick false).1 * pool.scale := (sound.foundTick tick false).side
  rw [(sound.clamped_eq tick false).1]
  unfold clampTick minTick maxTick at *
  omega

/-- No tick is passed over, whatever the layout. -/
theorem Sound.next_passed (inside : minTick ≤ tick ∧ tick ≤ maxTick) {other : Int}
    (mem : other ∈ pool.ticks) :
    ¬ Passed zeroForOne tick (pool.nextInitializedTick tick zeroForOne).1 other := by
  have spec := sound.foundTick tick zeroForOne
  have passed := spec.passed other mem
  rw [nextInitializedTick_eq sound.spacing]
  generalize (pool.searchWord tick zeroForOne).1 * pool.scale = found at spec passed ⊢
  cases pool.tickTraversal with
  | spacingCompressed => exact passed
  | algebraRaw =>
    have side := spec.side
    intro clamped
    replace clamped : Passed zeroForOne tick (clampTick found) other := clamped
    apply passed
    unfold Passed clampTick at *
    split_ifs at * <;> omega

/-- The flag of a result says whether the map holds it, except that the raw layout reports the end
of the range as uninitialized to a search that starts there. -/
theorem Sound.next_flag (inside : minTick ≤ tick ∧ tick ≤ maxTick) :
    (pool.nextInitializedTick tick zeroForOne).2 = true ↔
      (pool.nextInitializedTick tick zeroForOne).1 ∈ pool.ticks ∧
        ¬ (pool.tickTraversal = .algebraRaw ∧ zeroForOne = false ∧ tick = maxTick) := by
  have spec := sound.foundTick tick zeroForOne
  rw [nextInitializedTick_eq sound.spacing]
  generalize (pool.searchWord tick zeroForOne).1 * pool.scale = found at spec ⊢
  cases pool.tickTraversal with
  | spacingCompressed => simpa using spec.flag
  | algebraRaw =>
    have side := spec.side
    simp only [true_and]
    constructor
    · intro set
      have mem := spec.flag.mp set
      have range := sound.inside found mem
      rw [clampTick_of_mem range]
      refine ⟨mem, ?_⟩
      rintro ⟨rfl, rfl⟩
      simp only [Bool.false_eq_true, if_false] at side
      omega
    · rintro ⟨mem, corner⟩
      have range := sound.inside _ mem
      -- where the clamp moved the result, the end of the range lies behind the start
      by_cases moved : clampTick found = found
      · exact spec.flag.mpr (moved ▸ mem)
      · exfalso
        apply spec.passed _ mem
        unfold Passed clampTick at *
        cases zeroForOne with
        | true =>
          simp only [if_true] at *
          omega
        | false =>
          simp only [Bool.false_eq_true, if_false, true_and] at *
          omega

end

end ClmmPool

end PolyBot.Dex
