import PolyBot.Lib.Loop
import PolyBot.Lib.SwapMath
import PolyBot.Dex.Traversal

/-!
# Quotes

Four loops walk a pool from boundary to boundary: the quote of an exact input, the quote of an exact
output, the builder of a prepared curve in either mode, and the fused builder of an exact-input curve
that is bounded by an output.  They share the search for the next boundary and the crossing of an
initialized tick, and differ in when they stop and in what they add up.

A prepared curve keeps one segment for each step that moved something, and a quote on it replays at
most one step.
-/

namespace PolyBot.Dex

open SwapMath (computeSwapStep)

/-- Why a quote or a curve is not returned.  `diverged` stands for a loop that does not end. -/
inductive ClmmError
  | rejected (message : String)
  | insufficientLiquidity
  | missingTick (tick : Int)
  | missingRatio (tick : Int)
  | diverged
  deriving DecidableEq

def ClmmError.message : ClmmError → String
  | rejected message => message
  | insufficientLiquidity => "pool has insufficient hydrated liquidity"
  | missingTick tick => s!"bitmap references missing tick {tick}"
  | missingRatio tick => s!"missing cached sqrt ratio for word boundary {tick}"
  | diverged => ""

/-- Where a traversal stands. -/
structure Walk where
  sqrtPriceX96 : Nat
  tick : Int
  liquidity : Nat
  deriving DecidableEq

/-- The next tick of a traversal, its price, and that price within the limit of the swap. -/
structure Boundary where
  tickNext : Int
  initialized : Bool
  sqrtPriceNextX96 : Nat
  target : Nat
  deriving DecidableEq

def sqrtPriceLimitX96 (zeroForOne : Bool) : Nat :=
  if zeroForOne then minSqrtRatio + 1 else maxSqrtRatio - 1

def sqrtPriceTarget (zeroForOne : Bool) (sqrtPriceNextX96 : Nat) : Nat :=
  if zeroForOne then max sqrtPriceNextX96 (sqrtPriceLimitX96 zeroForOne)
  else min sqrtPriceNextX96 (sqrtPriceLimitX96 zeroForOne)

/-- More rounds than there are ticks. -/
def traversalRounds : Nat :=
  (maxTick - minTick + 3).toNat

structure LocalQuote where
  amountOut : Nat
  sqrtPriceAfterX96 : Nat
  tickAfter : Int
  liquidityAfter : Nat
  initializedTicksCrossed : Nat
  deriving DecidableEq

inductive PreparedQuoteKind
  | exactInput
  | exactOutput
  deriving DecidableEq

structure PreparedQuoteSegment where
  specifiedEnd : Nat
  resultEnd : Nat
  sqrtPriceStartX96 : Nat
  sqrtPriceTargetX96 : Nat
  liquidity : Nat
  deriving DecidableEq

structure PreparedQuoteCurve where
  kind : PreparedQuoteKind
  feePips : Nat
  segments : List PreparedQuoteSegment
  deriving DecidableEq

/-- The specified amount and the result of a step. -/
def PreparedQuoteKind.amounts : PreparedQuoteKind → Nat → Nat → Nat × Nat
  | exactInput, inputWithFee, amountOut => (inputWithFee, amountOut)
  | exactOutput, inputWithFee, amountOut => (amountOut, inputWithFee)

/-- A specified amount as the step function takes it. -/
def PreparedQuoteKind.signed : PreparedQuoteKind → Nat → Int
  | exactInput, amount => amount
  | exactOutput, amount => -amount

namespace ClmmPool

variable (pool : ClmmPool) (zeroForOne : Bool)

def sqrtRatioAtTraversalTick (tick : Int) (initialized : Bool) : Except ClmmError Nat :=
  if initialized then
    orError (TickMath.getSqrtRatioAtTick tick) (.rejected "failed to price initialized tick")
  else orError (pool.wordBoundarySqrtRatio tick) (.missingRatio tick)

/-- What a search has found, as the boundary of a step. -/
def boundaryFound (found : Int × Bool) : Except ClmmError Boundary := do
  let tickNext := clampTick found.1
  let sqrtPriceNextX96 ← pool.sqrtRatioAtTraversalTick tickNext found.2
  return ⟨tickNext, found.2, sqrtPriceNextX96, sqrtPriceTarget zeroForOne sqrtPriceNextX96⟩

def nextBoundary (tick : Int) : Except ClmmError Boundary :=
  pool.boundaryFound zeroForOne (pool.nextInitializedTick tick zeroForOne)

/-- The net liquidity of a tick in the direction it is crossed. -/
def netInDirection (net : Int) : Except ClmmError Int :=
  if zeroForOne then orError (checkedInt 128 (-net)) (.rejected "liquidity net overflow") else .ok net

/-- The active liquidity behind an initialized tick. -/
def liquidityBehind (failure : String) (liquidity : Nat) (tick : Int) : Except ClmmError Nat := do
  let tickState ← orError pool.ticks[tick]? (.missingTick tick)
  let liquidityNet ← netInDirection zeroForOne tickState.net
  (uniswapV3Math.addDelta liquidity liquidityNet).mapError fun _ => .rejected failure

/-- The active liquidity behind a boundary. -/
def liquidityAcross (failure : String) (liquidity : Nat) (boundary : Boundary) :
    Except ClmmError Nat :=
  if boundary.initialized then
    pool.liquidityBehind zeroForOne failure liquidity boundary.tickNext
  else .ok liquidity

/-- The traversal behind a boundary that the price has reached. -/
def cross (failure : String) (liquidity : Nat) (boundary : Boundary) : Except ClmmError Walk := do
  let liquidity ← pool.liquidityAcross zeroForOne failure liquidity boundary
  return ⟨boundary.sqrtPriceNextX96,
    if zeroForOne then boundary.tickNext - 1 else boundary.tickNext, liquidity⟩

def start : Walk :=
  ⟨pool.sqrtPriceX96, pool.tick, pool.liquidity⟩

/-! ## Exact input -/

structure ExactIn where
  amountRemaining : Nat
  amountOut : Nat
  walk : Walk
  initializedTicksCrossed : Nat

def ExactIn.condition (state : ExactIn) : Bool :=
  state.amountRemaining ≠ 0 ∧ state.walk.sqrtPriceX96 ≠ sqrtPriceLimitX96 zeroForOne

/-- The tick reported after a partial step. -/
def tickAfterPartial (includeAfterState : Bool) (tick : Int) (sqrtPriceX96 : Nat) :
    Except ClmmError Int :=
  if includeAfterState then
    orError (TickMath.getTickAtSqrtRatio sqrtPriceX96)
      (.rejected "failed to derive tick after partial swap step")
  else .ok tick

/-- A round of the loop towards its boundary. -/
def ExactIn.toBoundary (includeAfterState zeroForOne : Bool) (state : ExactIn) (boundary : Boundary) :
    Except ClmmError (ForInStep ExactIn) := do
  let step ← orError
    (computeSwapStep state.walk.sqrtPriceX96 boundary.target state.walk.liquidity
      state.amountRemaining (pool.feePipsForDirection zeroForOne))
    (.rejected "failed to compute swap step")
  let consumed ← orError (checkedAdd 256 step.amountIn step.feeAmount)
    (.rejected "swap input overflow")
  let amountRemaining ← orError (checkedSub state.amountRemaining consumed)
    (.rejected "swap consumed more than remaining input")
  let amountOut ← orError (checkedAdd 256 state.amountOut step.amountOut)
    (.rejected "swap output overflow")
  if step.sqrtRatioNext = boundary.sqrtPriceNextX96 then do
    let walk ← pool.cross zeroForOne "failed to cross initialized tick" state.walk.liquidity boundary
    return .yield ⟨amountRemaining, amountOut, walk,
      state.initializedTicksCrossed + if boundary.initialized then 1 else 0⟩
  else do
    let tick ← tickAfterPartial includeAfterState state.walk.tick step.sqrtRatioNext
    return .done ⟨amountRemaining, amountOut, ⟨step.sqrtRatioNext, tick, state.walk.liquidity⟩,
      state.initializedTicksCrossed⟩

def ExactIn.body (includeAfterState zeroForOne : Bool) (state : ExactIn) :
    Except ClmmError (ForInStep ExactIn) := do
  let boundary ← pool.nextBoundary zeroForOne state.walk.tick
  ExactIn.toBoundary pool includeAfterState zeroForOne state boundary

/-- The loop of the exact-input quote. -/
def exactInLoop (includeAfterState zeroForOne : Bool) : Nat → ExactIn → Except ClmmError ExactIn :=
  whileLoop .diverged (ExactIn.condition zeroForOne) (ExactIn.body pool includeAfterState zeroForOne)

def quoteExactInImpl (includeAfterState zeroForOne : Bool) (amountIn : Nat) :
    Except ClmmError LocalQuote := do
  require (amountIn ≠ 0) (.rejected "amount in must be positive")
  require (amountIn < 2 ^ 255) (.rejected "amount in exceeds int256")
  let final ← pool.exactInLoop includeAfterState zeroForOne traversalRounds
    ⟨amountIn, 0, pool.start, 0⟩
  require (final.amountRemaining = 0) .insufficientLiquidity
  return ⟨final.amountOut, final.walk.sqrtPriceX96, final.walk.tick, final.walk.liquidity,
    final.initializedTicksCrossed⟩

def quoteExactIn (amountIn : Nat) : Except ClmmError LocalQuote :=
  pool.quoteExactInImpl true zeroForOne amountIn

def quoteExactInAmountOut (amountIn : Nat) :
    Except ClmmError Nat := do
  let quote ← pool.quoteExactInImpl false zeroForOne amountIn
  return quote.amountOut

/-! ## Exact output -/

structure ExactOut where
  amountRemaining : Nat
  amountIn : Nat
  preparedResultCapacity : Nat
  walk : Walk

def ExactOut.condition (state : ExactOut) : Bool :=
  state.amountRemaining ≠ 0 ∧ state.walk.sqrtPriceX96 ≠ sqrtPriceLimitX96 zeroForOne ∧
    state.walk.liquidity ≠ 0

/-- A value that only a step with an output replaces. -/
def ifProductive (step : SwapMath.SwapStep) (value previous : Nat) : Nat :=
  if step.amountOut ≠ 0 then value else previous

def ExactOut.body (state : ExactOut) :
    Except ClmmError (ForInStep ExactOut) := do
  let boundary ← pool.nextBoundary zeroForOne state.walk.tick
  let step ← orError
    (computeSwapStep state.walk.sqrtPriceX96 boundary.target state.walk.liquidity
      (-state.amountRemaining) (pool.feePipsForDirection zeroForOne))
    (.rejected "failed to compute exact-output swap step")
  let amountRemaining ← orError (checkedSub state.amountRemaining step.amountOut)
    (.rejected "swap produced more than remaining output")
  let amountIn ← orError
    ((checkedAdd 256 state.amountIn step.amountIn).bind (checkedAdd 256 · step.feeAmount))
    (.rejected "swap input overflow")
  let preparedResultCapacity := ifProductive step amountIn state.preparedResultCapacity
  if step.sqrtRatioNext = boundary.sqrtPriceNextX96 then do
    let walk ← pool.cross zeroForOne "failed to cross initialized tick" state.walk.liquidity boundary
    return .yield ⟨amountRemaining, amountIn, preparedResultCapacity, walk⟩
  else
    return .done ⟨amountRemaining, amountIn, preparedResultCapacity,
      { state.walk with sqrtPriceX96 := step.sqrtRatioNext }⟩

def exactOutLoop : Nat → ExactOut → Except ClmmError ExactOut :=
  whileLoop .diverged (ExactOut.condition zeroForOne) (ExactOut.body pool zeroForOne)

def quoteExactOutAmountInImpl (amountOut : Nat) (requireFullOutput : Bool) :
    Except ClmmError Nat := do
  require (amountOut ≠ 0) (.rejected "amount out must be positive")
  require (amountOut < 2 ^ 255) (.rejected "amount out exceeds int256")
  let final ← pool.exactOutLoop zeroForOne traversalRounds ⟨amountOut, 0, 0, pool.start⟩
  require (¬ (requireFullOutput ∧ final.amountRemaining ≠ 0)) .insufficientLiquidity
  return if requireFullOutput then final.amountIn else final.preparedResultCapacity

def quoteExactOutAmountIn (amountOut : Nat) : Except ClmmError Nat :=
  pool.quoteExactOutAmountInImpl zeroForOne amountOut true

def exactOutputResultCapacityBounded (maximumAmountOut : Nat) : Except ClmmError Nat :=
  pool.quoteExactOutAmountInImpl zeroForOne maximumAmountOut false

/-! ## Prepared curves -/

/-- The variables of a builder. -/
structure Building where
  specifiedTotal : Nat
  resultTotal : Nat
  segments : List PreparedQuoteSegment
  walk : Walk

def Building.condition (maximumSpecified : Nat) (state : Building) : Bool :=
  state.specifiedTotal < maximumSpecified ∧
    state.walk.sqrtPriceX96 ≠ sqrtPriceLimitX96 zeroForOne ∧ state.walk.liquidity ≠ 0

/-- A segment is kept unless nothing was specified on it. -/
def pushSegment (segments : List PreparedQuoteSegment) (specifiedStep : Nat)
    (segment : PreparedQuoteSegment) : List PreparedQuoteSegment :=
  if specifiedStep ≠ 0 then segments ++ [segment] else segments

def Building.body (kind : PreparedQuoteKind) (maximumSpecified : Nat) (state : Building) :
    Except ClmmError (ForInStep Building) := do
  let specifiedRemaining ← orError (checkedSub maximumSpecified state.specifiedTotal)
    (.rejected "prepared specified amount exceeded its maximum")
  let boundary ← pool.nextBoundary zeroForOne state.walk.tick
  let step ← orError
    (computeSwapStep state.walk.sqrtPriceX96 boundary.target state.walk.liquidity
      (kind.signed specifiedRemaining) (pool.feePipsForDirection zeroForOne))
    (.rejected "failed to build prepared swap segment")
  let inputWithFee ← orError (checkedAdd 256 step.amountIn step.feeAmount)
    (.rejected "prepared swap input overflow")
  let amounts := kind.amounts inputWithFee step.amountOut
  let specifiedEnd ← orError (checkedAdd 256 state.specifiedTotal amounts.1)
    (.rejected "prepared specified amount overflow")
  let resultEnd ← orError (checkedAdd 256 state.resultTotal amounts.2)
    (.rejected "prepared result amount overflow")
  let segments := pushSegment state.segments amounts.1
    ⟨specifiedEnd, resultEnd, state.walk.sqrtPriceX96, boundary.target, state.walk.liquidity⟩
  if step.sqrtRatioNext = boundary.sqrtPriceNextX96 then do
    let walk ← pool.cross zeroForOne "failed to cross prepared initialized tick"
      state.walk.liquidity boundary
    return .yield ⟨specifiedEnd, resultEnd, segments, walk⟩
  else
    return .done ⟨specifiedEnd, resultEnd, segments,
      { state.walk with sqrtPriceX96 := step.sqrtRatioNext }⟩

def buildLoop (kind : PreparedQuoteKind) (maximumSpecified : Nat) :
    Nat → Building → Except ClmmError Building :=
  whileLoop .diverged (Building.condition zeroForOne maximumSpecified)
    (Building.body pool zeroForOne kind maximumSpecified)

/-- A previous curve gives its allocation only. -/
def clearedSegments : Option PreparedQuoteCurve → List PreparedQuoteSegment
  | some _ => []
  | none => []

def prepareQuoteCurveReusing (kind : PreparedQuoteKind) (maximumSpecified : Nat)
    (previous : Option PreparedQuoteCurve) :
    Except ClmmError PreparedQuoteCurve := do
  require (maximumSpecified ≠ 0) (.rejected "prepared curve maximum must be positive")
  require (maximumSpecified < 2 ^ 255) (.rejected "prepared curve maximum exceeds int256")
  let final ← pool.buildLoop zeroForOne kind maximumSpecified traversalRounds
    ⟨0, 0, clearedSegments previous, pool.start⟩
  return ⟨kind, pool.feePipsForDirection zeroForOne, final.segments⟩

def prepareExactInputCurveBounded (maximumAmountIn : Nat) : Except ClmmError PreparedQuoteCurve :=
  pool.prepareQuoteCurveReusing zeroForOne .exactInput maximumAmountIn none

def prepareExactInputCurveBoundedReusing (maximumAmountIn : Nat) (previous : PreparedQuoteCurve) :
    Except ClmmError PreparedQuoteCurve :=
  pool.prepareQuoteCurveReusing zeroForOne .exactInput maximumAmountIn (some previous)

def prepareExactOutputCurveBounded (maximumAmountOut : Nat) : Except ClmmError PreparedQuoteCurve :=
  pool.prepareQuoteCurveReusing zeroForOne .exactOutput maximumAmountOut none

def prepareExactOutputCurveBoundedReusing (maximumAmountOut : Nat) (previous : PreparedQuoteCurve) :
    Except ClmmError PreparedQuoteCurve :=
  pool.prepareQuoteCurveReusing zeroForOne .exactOutput maximumAmountOut (some previous)

/-! ## The fused builder -/

structure Fusing where
  specifiedTotal : Nat
  resultTotal : Nat
  resultRemaining : Nat
  segments : List PreparedQuoteSegment
  lastProductiveSegmentCount : Nat
  walk : Walk

def Fusing.condition (state : Fusing) : Bool :=
  state.resultRemaining ≠ 0 ∧ state.walk.sqrtPriceX96 ≠ sqrtPriceLimitX96 zeroForOne ∧
    state.walk.liquidity ≠ 0

/-- What a segment of the fused curve adds: the step itself at a boundary, and the step computed
again from its input where it stops inside the range. -/
def fusedAmounts (walk : Walk) (boundary : Boundary) (step : SwapMath.SwapStep) (inputWithFee : Nat) :
    Except ClmmError (Nat × Nat) :=
  if step.sqrtRatioNext ≠ boundary.sqrtPriceNextX96 then do
    let again ← orError
      (computeSwapStep walk.sqrtPriceX96 boundary.target walk.liquidity inputWithFee
        (pool.feePipsForDirection zeroForOne))
      (.rejected "failed to finalize fused exact-input segment")
    let specified ← orError (checkedAdd 256 again.amountIn again.feeAmount)
      (.rejected "fused exact-input specified amount overflow")
    return (specified, again.amountOut)
  else .ok (inputWithFee, step.amountOut)

def Fusing.body (state : Fusing) :
    Except ClmmError (ForInStep Fusing) := do
  let boundary ← pool.nextBoundary zeroForOne state.walk.tick
  let step ← orError
    (computeSwapStep state.walk.sqrtPriceX96 boundary.target state.walk.liquidity
      (-state.resultRemaining) (pool.feePipsForDirection zeroForOne))
    (.rejected "failed to build fused exact-output boundary")
  let inputWithFee ← orError (checkedAdd 256 step.amountIn step.feeAmount)
    (.rejected "fused prepared swap input overflow")
  let amounts ← fusedAmounts pool zeroForOne state.walk boundary step inputWithFee
  let specifiedEnd ← orError (checkedAdd 256 state.specifiedTotal amounts.1)
    (.rejected "fused prepared specified amount overflow")
  let resultEnd ← orError (checkedAdd 256 state.resultTotal amounts.2)
    (.rejected "fused prepared result amount overflow")
  let segments := pushSegment state.segments amounts.1
    ⟨specifiedEnd, resultEnd, state.walk.sqrtPriceX96, boundary.target, state.walk.liquidity⟩
  let lastProductiveSegmentCount :=
    ifProductive step segments.length state.lastProductiveSegmentCount
  let resultRemaining ← orError (checkedSub state.resultRemaining step.amountOut)
    (.rejected "fused swap produced more than remaining output")
  if step.sqrtRatioNext = boundary.sqrtPriceNextX96 then do
    let walk ← pool.cross zeroForOne "failed to cross fused prepared initialized tick"
      state.walk.liquidity boundary
    return .yield ⟨specifiedEnd, resultEnd, resultRemaining, segments, lastProductiveSegmentCount,
      walk⟩
  else
    return .done ⟨specifiedEnd, resultEnd, resultRemaining, segments, lastProductiveSegmentCount,
      { state.walk with sqrtPriceX96 := step.sqrtRatioNext }⟩

def fuseLoop : Nat → Fusing → Except ClmmError Fusing :=
  whileLoop .diverged (Fusing.condition zeroForOne) (Fusing.body pool zeroForOne)

def prepareExactInputCurveBoundedByExactOutputReusing (maximumAmountOut : Nat)
    (previous : Option PreparedQuoteCurve) :
    Except ClmmError PreparedQuoteCurve := do
  require (maximumAmountOut ≠ 0) (.rejected "prepared curve output maximum must be positive")
  require (maximumAmountOut < 2 ^ 255) (.rejected "prepared curve output maximum exceeds int256")
  let final ← pool.fuseLoop zeroForOne traversalRounds
    ⟨0, 0, maximumAmountOut, clearedSegments previous, 0, pool.start⟩
  return ⟨.exactInput, pool.feePipsForDirection zeroForOne,
    final.segments.take final.lastProductiveSegmentCount⟩

end ClmmPool

/-! ## Quotes on a curve -/

namespace PreparedQuoteCurve

/-- The result of a partial step on a segment. -/
def stepResult (kind : PreparedQuoteKind) (step : SwapMath.SwapStep) : Except ClmmError Nat :=
  match kind with
  | .exactInput => .ok step.amountOut
  | .exactOutput => orError (checkedAdd 256 step.amountIn step.feeAmount)
    (.rejected "prepared exact-output input overflow")

variable (curve : PreparedQuoteCurve)

/-- The quote of an amount inside a segment, from the end of the one before it. -/
def quoteSegment (segment : PreparedQuoteSegment) (specifiedStart resultStart specifiedAmount : Nat) :
    Except ClmmError Nat :=
  if specifiedAmount = segment.specifiedEnd then .ok segment.resultEnd
  else do
    let remaining ← orError (checkedSub specifiedAmount specifiedStart)
      (.rejected "prepared quote amount precedes segment")
    let step ← orError
      (computeSwapStep segment.sqrtPriceStartX96 segment.sqrtPriceTargetX96 segment.liquidity
        (curve.kind.signed remaining) curve.feePips)
      (.rejected "failed to quote prepared swap segment")
    let result ← stepResult curve.kind step
    orError (checkedAdd 256 resultStart result) (.rejected "prepared quote result overflow")

/-- The number of segments that end before an amount: the segments are sorted, so it is where the
binary search of the original ends. -/
def segmentIndex (specifiedAmount : Nat) : Nat :=
  curve.segments.findIdx fun segment => ¬ segment.specifiedEnd < specifiedAmount

/-- The end of the segment before an index. -/
def startOf : Nat → Nat × Nat
  | 0 => (0, 0)
  | index + 1 => match curve.segments[index]? with
    | some previous => (previous.specifiedEnd, previous.resultEnd)
    | none => (0, 0)

def quote (specifiedAmount : Nat) : Except ClmmError Nat := do
  require (specifiedAmount ≠ 0) (.rejected "specified amount must be positive")
  require (specifiedAmount < 2 ^ 255) (.rejected "specified amount exceeds int256")
  let index := curve.segmentIndex specifiedAmount
  let segment ← orError curve.segments[index]? .insufficientLiquidity
  let start := curve.startOf index
  curve.quoteSegment segment start.1 start.2 specifiedAmount

def specifiedBoundaries : List Nat :=
  curve.segments.map (·.specifiedEnd)

def specifiedCapacity : Nat :=
  (curve.segments.getLast?.map (·.specifiedEnd)).getD 0

def resultCapacity : Nat :=
  (curve.segments.getLast?.map (·.resultEnd)).getD 0

end PreparedQuoteCurve

end PolyBot.Dex
