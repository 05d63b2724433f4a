import PolyBot.Dex.AdaptiveFee
import PolyBot.Lib.Scan

/-!
# Projection of the adaptive fee

An Algebra pool keeps a ring of 65536 timepoints and derives its fee from the averages of the last
24 hours.  The bot holds some of the timepoints and projects the fee the pool would charge at a
later time.  `FeeProjectionState.feesAt` is that projection; the other functions follow the pool's
events.
-/

namespace PolyBot.Dex

def windowSeconds : Nat := 86400

/-- The number of slots of the ring; slots are `u16`. -/
def ringSize : Nat := 65536

def nextSlot (index : Nat) : Nat := (index + 1) % ringSize

def previousSlot (index : Nat) : Nat := (index + (ringSize - 1)) % ringSize

structure Timepoint where
  initialized : Bool
  blockTimestamp : Nat
  tickCumulative : Int
  secondsPerLiquidityCumulative : Nat
  volatilityCumulative : Nat
  averageTick : Int
  volumePerLiquidityCumulative : Nat
  deriving DecidableEq

structure DirectionalFees where
  zeroForOne : Nat
  oneForZero : Nat
  deriving DecidableEq

structure FeeEnvelope where
  current : DirectionalFees
  maximum : DirectionalFees
  firstTimestamp : Nat
  lastTimestamp : Nat
  deriving DecidableEq

structure FeeProjectionState where
  headTimestamp : Nat
  latestTimepointTimestamp : Nat
  tick : Int
  liquidity : Nat
  index : Nat
  oldestIndex : Nat
  currentFees : DirectionalFees
  volumePerLiquidityInBlock : Nat
  zeroForOneConfig : AdaptiveFeeConfiguration
  oneForZeroConfig : AdaptiveFeeConfiguration
  timepoints : Std.TreeMap Nat Timepoint

/-- Comparison of two `u32` timestamps that may have wrapped since `currentTime`. -/
def lteConsideringOverflow (a b currentTime : Nat) : Bool :=
  let aOverflowed := decide (currentTime < a)
  if aOverflowed = decide (currentTime < b) then a ≤ b else aOverflowed

/-- The numerator of the volatility; every product and sum is a checked `i128`. -/
def volatilityNumerator (k b dt sumSquares sumSequence : Int) : Option Int := do
  let value ← checkedInt 128 (k * k)
  let value ← checkedInt 128 (value * sumSquares)
  let cross ← checkedInt 128 (b * k)
  let cross ← checkedInt 128 (cross * sumSequence)
  let cross ← checkedInt 128 (cross * 6)
  let value ← checkedInt 128 (value + cross)
  let square ← checkedInt 128 (b * b)
  let square ← checkedInt 128 (square * dt)
  let square ← checkedInt 128 (square * 6)
  checkedInt 128 (value + square)

/-- The sum of squares of the distance to the average tick over an interval, as the pool computes
it; every product is a checked `i128`. -/
def volatilityOnRange (delta : Nat) (tick0 tick1 averageTick0 averageTick1 : Int) :
    Except String Nat := do
  let dt : Int := delta
  let k := (tick1 - tick0) - (averageTick1 - averageTick0)
  let b ← orError (checkedInt 128 ((tick0 - averageTick0) * dt)) "Camelot volatility B overflow"
  let sumSquares ← orError ((checkedInt 128 (dt * (dt + 1))).bind fun value =>
      checkedInt 128 (value * (2 * dt + 1)))
    "Camelot volatility square sequence overflow"
  let sumSequence ← orError (checkedInt 128 (dt * (dt + 1))) "Camelot volatility sequence overflow"
  let numerator ← orError (volatilityNumerator k b dt sumSquares sumSequence)
    "Camelot volatility numerator overflow"
  let denominator ← orError ((checkedInt 128 (6 * dt)).bind fun value =>
      checkedInt 128 (value * dt))
    "Camelot volatility denominator overflow"
  require (0 ≤ numerator) "Camelot volatility is negative"
  return (numerator.tdiv denominator).toNat

def createNewTimepoint (last : Timepoint) (timestamp : Nat) (tick previousTick : Int)
    (liquidity : Nat) (averageTick : Int) (volumePerLiquidity : Nat) :
    Except String Timepoint := do
  let delta ← orError (checkedSub timestamp last.blockTimestamp)
    "Camelot new timepoint timestamp is not ordered"
  require (delta ≠ 0) "Camelot new timepoint delta is zero"
  let tickCumulative ← orError (checkedInt 128 (last.tickCumulative + tick * delta))
    "Camelot tick cumulative overflow"
  let volatility ← volatilityOnRange delta previousTick tick last.averageTick averageTick
  let volatilityCumulative ← orError (checkedAdd 128 last.volatilityCumulative volatility)
    "Camelot volatility cumulative overflow"
  return {
    initialized := true
    blockTimestamp := timestamp
    tickCumulative := tickCumulative
    secondsPerLiquidityCumulative :=
      (last.secondsPerLiquidityCumulative + (delta <<< 128) / max liquidity 1) % 2 ^ 256
    volatilityCumulative := volatilityCumulative
    averageTick := averageTick
    volumePerLiquidityCumulative :=
      (last.volumePerLiquidityCumulative + volumePerLiquidity) % 2 ^ 256 }

/-- The point between two others; the unchecked operators wrap. -/
def interpolateTimepoint (before after : Timepoint) (target : Nat) : Except String Timepoint := do
  let interval ← orError (checkedSub after.blockTimestamp before.blockTimestamp)
    "Camelot interpolation points are not ordered"
  require (interval ≠ 0) "Camelot interpolation interval is zero"
  let targetDelta ← orError (checkedSub target before.blockTimestamp)
    "Camelot interpolation target is not ordered"
  return {
    initialized := before.initialized
    blockTimestamp := before.blockTimestamp
    tickCumulative := wrappingInt 128 (before.tickCumulative +
      (wrappingInt 128 (after.tickCumulative - before.tickCumulative)).tdiv interval * targetDelta)
    secondsPerLiquidityCumulative := (before.secondsPerLiquidityCumulative +
      wrappingSub 256 after.secondsPerLiquidityCumulative before.secondsPerLiquidityCumulative *
        targetDelta % 2 ^ 256 / interval) % 2 ^ 256
    volatilityCumulative := (before.volatilityCumulative +
      wrappingSub 128 after.volatilityCumulative before.volatilityCumulative / interval *
        targetDelta) % 2 ^ 128
    averageTick := before.averageTick
    volumePerLiquidityCumulative := (before.volumePerLiquidityCumulative +
      wrappingSub 256 after.volumePerLiquidityCumulative before.volumePerLiquidityCumulative /
        interval * targetDelta) % 2 ^ 256 }

variable (state : FeeProjectionState)

namespace FeeProjectionState

/-- Whether a slot is held and its timepoint has been written. -/
def initializedAt (timepoints : Std.TreeMap Nat Timepoint) (slot : Nat) : Bool :=
  timepoints[slot]?.any Timepoint.initialized

def validate (state : FeeProjectionState) : Except String Unit := do
  state.zeroForOneConfig.validate
  state.oneForZeroConfig.validate
  require (state.liquidity ≠ 0) "Camelot fee projection liquidity is zero"
  require (state.timepoints[state.index]?.any (fun point =>
      point.initialized && point.blockTimestamp = state.latestTimepointTimestamp) = true)
    "Camelot latest timepoint is unavailable"
  require (initializedAt state.timepoints state.oldestIndex = true)
    "Camelot oldest timepoint is unavailable"

def latest (state : FeeProjectionState) : Except String Timepoint :=
  orError state.timepoints[state.index]? "Camelot latest timepoint is missing"

def previousTick (last : Timepoint) : Except String Int := do
  if state.index = state.oldestIndex then
    return state.tick
  let previous ← orError state.timepoints[previousSlot state.index]?
    "Camelot previous timepoint is missing"
  let elapsed ← orError (checkedSub last.blockTimestamp previous.blockTimestamp)
    "Camelot previous timepoint timestamp is not ordered"
  require (elapsed ≠ 0) "Camelot adjacent timepoints share a timestamp"
  let delta ← orError (checkedInt 128 (last.tickCumulative - previous.tickCumulative))
    "Camelot tick cumulative delta overflow"
  orError (checkedInt 32 (delta.tdiv elapsed)) "Camelot previous tick does not fit int24"

/-- The written timepoints that are held, in slot order. -/
def points : List Timepoint :=
  (state.timepoints.toList.map Prod.snd).filter Timepoint.initialized

/-- The newest of the points at or before `target`. -/
def newestBefore (target : Nat) (points : List Timepoint) : Option Timepoint :=
  scanBest (fun point => point.blockTimestamp ≤ target)
    (fun point candidate => candidate.blockTimestamp < point.blockTimestamp) points

/-- The oldest of the points at or after `target`. -/
def oldestAfter (target : Nat) (points : List Timepoint) : Option Timepoint :=
  scanBest (fun point => target ≤ point.blockTimestamp)
    (fun point candidate => point.blockTimestamp < candidate.blockTimestamp) points

/-- The point at `target` from the two held points next to it. -/
def bracketedTimepoint (points : List Timepoint) (target : Nat) : Except String Timepoint := do
  let before ← orError (newestBefore target points)
    "Camelot timepoint before window target is missing"
  let after ← orError (oldestAfter target points)
    "Camelot timepoint after window target is missing"
  if target = after.blockTimestamp then
    return after
  else if target = before.blockTimestamp then
    return before
  else
    interpolateTimepoint before after target

/-- `timestamp.wrapping_sub(WINDOW_SECONDS)`. -/
def windowStart (timestamp : Nat) : Nat :=
  wrappingSub 32 timestamp windowSeconds

/-- The time-weighted tick of the window before `timestamp`, of the interval before the latest point
when that one is older than the window, and of the whole history when that is shorter.  The window
lookup is that of `single_timepoint` with `WINDOW_SECONDS`, which goes to the neighbouring points
wherever it is asked for here. -/
def windowTick (timestamp : Nat) (last oldest : Timepoint) : Except String Int :=
  if lteConsideringOverflow oldest.blockTimestamp (windowStart timestamp) timestamp = true then
    if lteConsideringOverflow last.blockTimestamp (windowStart timestamp) timestamp = true then do
      let start ← orError state.timepoints[previousSlot state.index]?
        "Camelot average-tick start timepoint is missing"
      if start.initialized then do
        let elapsed ← orError (checkedSub last.blockTimestamp start.blockTimestamp)
          "Camelot average-tick timestamps are not ordered"
        require (elapsed ≠ 0) "Camelot average-tick interval is zero"
        return (wrappingInt 128 (last.tickCumulative - start.tickCumulative)).tdiv elapsed
      else
        return state.tick
    else do
      let start ← bracketedTimepoint state.points (windowStart timestamp)
      let sinceLast ← orError (checkedSub timestamp last.blockTimestamp)
        "Camelot average-tick timestamp is not ordered"
      let elapsed ← orError (checkedSub windowSeconds sinceLast)
        "Camelot average-tick window underflow"
      require (elapsed ≠ 0) "Camelot average-tick window is zero"
      return (wrappingInt 128 (last.tickCumulative - start.tickCumulative)).tdiv elapsed
  else if last.blockTimestamp = oldest.blockTimestamp then
    .ok state.tick
  else
    .ok ((wrappingInt 128 (last.tickCumulative - oldest.tickCumulative)).tdiv
      (wrappingSub 32 last.blockTimestamp oldest.blockTimestamp))

/-- The average tick of the point to be written at `timestamp`. -/
def averageTickForNewTimepoint (timestamp : Nat) (last : Timepoint) :
    Except String Int := do
  let oldest ← orError state.timepoints[state.oldestIndex]? "Camelot oldest timepoint is missing"
  let average ← state.windowTick timestamp last oldest
  let average ← orError (checkedInt 32 average) "Camelot average tick does not fit int24"
  require (-8388608 ≤ average ∧ average ≤ 8388607) "Camelot average tick is outside int24"
  return average

/-- The accumulated values `secondsAgo` before `timestamp`; every caller asks for the state's own
latest index. -/
def singleTimepoint (timestamp secondsAgo : Nat) :
    Except String Timepoint := do
  let target := wrappingSub 32 timestamp secondsAgo
  let last ← orError state.timepoints[state.index]?
    "Camelot requested latest timepoint is missing"
  if secondsAgo = 0 ∨ lteConsideringOverflow last.blockTimestamp target timestamp = true then
    if last.blockTimestamp = target then
      return last
    let averageTick ← state.averageTickForNewTimepoint timestamp last
    let previousTick ← state.previousTick last
    createNewTimepoint last target state.tick previousTick state.liquidity averageTick 0
  else
    bracketedTimepoint state.points target

/-- Average volatility and volume of the window that ends at `timestamp`. -/
def averages (timestamp : Nat) : Except String (Nat × Nat) := do
  let oldest ← orError state.timepoints[state.oldestIndex]? "Camelot oldest timepoint is missing"
  let last ← state.singleTimepoint timestamp 0
  if lteConsideringOverflow oldest.blockTimestamp (windowStart timestamp) timestamp then
    let first ← state.singleTimepoint timestamp windowSeconds
    return (wrappingSub 128 last.volatilityCumulative first.volatilityCumulative / windowSeconds,
      wrappingSub 256 last.volumePerLiquidityCumulative first.volumePerLiquidityCumulative >>> 57)
  else if timestamp ≠ oldest.blockTimestamp then
    return (wrappingSub 128 last.volatilityCumulative oldest.volatilityCumulative /
        wrappingSub 32 timestamp oldest.blockTimestamp,
      wrappingSub 256 last.volumePerLiquidityCumulative oldest.volumePerLiquidityCumulative >>> 57)
  else
    return (0, 0)

/-- The oldest slot once `written` has been written: the one after it when that one holds a written
point, slot 0 otherwise. -/
def oldestIndexAfterWrite (timepoints : Std.TreeMap Nat Timepoint) (written : Nat) :
    Except String Nat := do
  let candidate := nextSlot written
  let oldest := if initializedAt timepoints candidate then candidate else 0
  require (initializedAt timepoints oldest = true)
    "Camelot oldest timepoint after write is unavailable"
  return oldest

/-- The point the pool would write at `timestamp`. -/
def pointAt (last : Timepoint) (timestamp : Nat) :
    Except String Timepoint := do
  let averageTick ← state.averageTickForNewTimepoint timestamp last
  let previousTick ← state.previousTick last
  createNewTimepoint last timestamp state.tick previousTick state.liquidity averageTick
    state.volumePerLiquidityInBlock

/-- The state with `point` written into the slot after the latest one. -/
def written (point : Timepoint) : Except String FeeProjectionState := do
  let index := nextSlot state.index
  let timepoints := state.timepoints.insert index point
  let oldestIndex ← oldestIndexAfterWrite timepoints index
  return { state with index := index, timepoints := timepoints, oldestIndex := oldestIndex }

def projectedAveragesAt (timestamp : Nat) :
    Except String (Nat × Nat) := do
  state.validate
  let last ← state.latest
  require (last.blockTimestamp < timestamp) "Camelot projected averages require a new timepoint"
  let projected ← state.pointAt last timestamp
  let projectedState ← state.written projected
  projectedState.averages timestamp

def feesAt (timestamp : Nat) : Except String DirectionalFees := do
  state.validate
  require (state.headTimestamp ≤ timestamp) "Camelot fee projection precedes canonical head"
  let last ← state.latest
  if timestamp = last.blockTimestamp then
    return state.currentFees
  require (last.blockTimestamp < timestamp)
    "Camelot fee projection timestamp precedes latest timepoint"
  let (volatility, volume) ← state.projectedAveragesAt timestamp
  let zeroForOne ← state.zeroForOneConfig.fee (volatility / 15) volume
  let oneForZero ← state.oneForZeroConfig.fee (volatility / 15) volume
  return ⟨zeroForOne, oneForZero⟩

/-- The fees at `timestamp` taken into the running maximum. -/
def raise (maximum : DirectionalFees) (timestamp : Nat) :
    Except String DirectionalFees := do
  let fees ← state.feesAt timestamp
  return ⟨max maximum.zeroForOne fees.zeroForOne, max maximum.oneForZero fees.oneForZero⟩

def envelope (horizonSeconds : Nat) : Except String FeeEnvelope := do
  state.validate
  let lastTimestamp ← orError (checkedAdd 32 state.headTimestamp horizonSeconds)
    "Camelot fee horizon exceeds uint32"
  let current ← state.feesAt state.headTimestamp
  let maximum ← ((List.range horizonSeconds).map (state.headTimestamp + 1 + ·)).foldlM state.raise
    current
  return ⟨current, maximum, state.headTimestamp, lastTimestamp⟩

/-- The first pool action at a new timestamp.  The projection has already written the same point,
so the write here cannot fail after it. -/
def applyFeeTimepoint (timestamp : Nat) (emitted : DirectionalFees) :
    Except String FeeProjectionState := do
  state.validate
  let last ← state.latest
  require (last.blockTimestamp < timestamp) "Camelot Fee does not advance the latest timepoint"
  require (state.headTimestamp ≤ timestamp) "Camelot Fee timestamp precedes canonical fee state"
  let expected ← state.feesAt timestamp
  require (emitted = expected) "Camelot Fee event differs from local adaptive-fee projection"
  let point ← state.pointAt last timestamp
  let next ← state.written point
  return { next with
    latestTimepointTimestamp := timestamp
    currentFees := emitted
    volumePerLiquidityInBlock := 0
    headTimestamp := timestamp }

def applySwapAfterTimepointValidation (timestamp : Nat) (amount0 amount1 : Int) (tick : Int)
    (liquidity : Nat) : Except String FeeProjectionState := do
  require (liquidity ≠ 0) "Camelot Swap liquidity is zero"
  let volume := calculateVolumePerLiquidityNonzero liquidity amount0 amount1
  return { state with
    volumePerLiquidityInBlock := (state.volumePerLiquidityInBlock + volume) % 2 ^ 128
    tick := tick
    liquidity := liquidity
    headTimestamp := max state.headTimestamp timestamp }

def applySwap (timestamp : Nat) (amount0 amount1 : Int) (tick : Int) (liquidity : Nat) :
    Except String FeeProjectionState := do
  require (state.latestTimepointTimestamp ≤ timestamp)
    "Camelot Swap timestamp precedes latest timepoint"
  state.applySwapAfterTimepointValidation timestamp amount0 amount1 tick liquidity

def applyLiquidityHead (timestamp : Nat) (tick : Int) (liquidity : Nat) :
    Except String FeeProjectionState := do
  state.validate
  let last ← state.latest
  require (last.blockTimestamp ≤ timestamp)
    "Camelot liquidity event timestamp precedes latest timepoint"
  require (liquidity ≠ 0) "Camelot active liquidity became zero"
  return { state with
    tick := tick
    liquidity := liquidity
    headTimestamp := max state.headTimestamp timestamp }

def advanceHead (timestamp : Nat) :
    Except String FeeProjectionState := do
  state.validate
  require (state.headTimestamp ≤ timestamp) "Camelot canonical head timestamp moved backwards"
  return { state with headTimestamp := timestamp }

end FeeProjectionState

end PolyBot.Dex
