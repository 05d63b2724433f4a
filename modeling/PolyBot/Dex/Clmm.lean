import PolyBot.Lib.Machine
import PolyBot.Lib.Proc

/-!
# Concentrated-liquidity pools

The local copy of one pool: its head (price, tick, active liquidity) and its initialized ticks, with
the bitmap that marks them.  Hydration installs ticks, a Swap replaces the head, and a liquidity
event moves the two boundaries of its range and, inside it, the active liquidity.

The tick library of the original is not part of its repository.  It is a parameter of the calls,
`UniswapV3Math`; whatever is said of quotes, searches and curves is about `uniswapV3Math`, and assumes
that the library is the reference functions of Uniswap V3.

* `ClmmPool.applySwapHead_applySwapHead`: a Swap leaves nothing of the Swap before it.
-/

namespace PolyBot.Dex

open Std

/-- What the pool uses of the external tick library: the active liquidity moved by a signed delta,
and the toggled bit of a tick in the bitmap of a spacing. -/
structure UniswapV3Math where
  addDelta : Nat → Int → Except String Nat
  flipTick : TreeMap Int Nat → Int → Int → Except String (TreeMap Int Nat)

/-- The library's own operations: the delta is checked against both ends of `u128`, and the bit of a
tick is found in words of 256 compressed ticks. -/
def uniswapV3Math : UniswapV3Math where
  addDelta x y :=
    if y < 0 then orError (checkedSub x y.natAbs) "Liquidity Sub"
    else orError (checkedAdd 128 x y.natAbs) "Liquidity Add"
  flipTick bitmap tick tickSpacing := do
    require (tick.tmod tickSpacing = 0) "Tick spacing error"
    let compressed := tick.tdiv tickSpacing
    let word := compressed / 256
    return bitmap.insert word (bitmap.getD word 0 ^^^ (1 <<< (compressed % 256).toNat))

def minTick : Int := -887272

def maxTick : Int := 887272

def minSqrtRatio : Nat := 4295128739

def maxSqrtRatio : Nat := 1461446703485210103287273052203988822378723970342

inductive TickTraversal
  | spacingCompressed
  | algebraRaw
  deriving DecidableEq

inductive FeeProfile
  | static
  | algebraDirectional
  | algebraSingle
  deriving DecidableEq

structure TickLiquidity where
  gross : Nat
  net : Int
  deriving DecidableEq

/-- The pool without its cache of word-boundary ratios, which follows from the spacing. -/
structure ClmmPool where
  feePips : Nat
  oneForZeroFeePips : Nat
  tickSpacing : Int
  sqrtPriceX96 : Nat
  tick : Int
  liquidity : Nat
  tickBitmap : TreeMap Int Nat
  ticks : TreeMap Int TickLiquidity
  tickTraversal : TickTraversal
  feeProfile : FeeProfile

def FeeProfile.tickTraversal : FeeProfile → TickTraversal
  | static => .spacingCompressed
  | algebraDirectional => .algebraRaw
  | algebraSingle => .algebraRaw

def updatedGross (gross amount : Nat) (adding : Bool) : Except String Nat :=
  if adding then
    orError (checkedAdd 128 gross amount) "gross tick liquidity overflow"
  else
    orError (checkedSub gross amount) "removed more gross tick liquidity than hydrated"

/-- A boundary after `amount` of gross liquidity is added or removed. -/
def updatedBoundary (current : Option TickLiquidity) (amount : Nat) (netDelta : Int)
    (adding : Bool) : Except String TickLiquidity := do
  let current := current.getD ⟨0, 0⟩
  let gross ← updatedGross current.gross amount adding
  let net ← orError (checkedInt 128 (current.net + netDelta)) "net tick liquidity overflow"
  require (gross ≠ 0 ∨ net = 0) "zero gross tick liquidity has non-zero net liquidity"
  return ⟨gross, net⟩

namespace ClmmPool

section New

variable (feePips feeZeroForOnePips feeOneForZeroPips : Nat) (tickSpacing : Int)
  (sqrtPriceX96 : Nat) (tick : Int) (liquidity : Nat)

def newWithProfile (feeProfile : FeeProfile) : Except String ClmmPool := do
  require (feeZeroForOnePips < 1000000 ∧ feeOneForZeroPips < 1000000)
    "fee must be below 1_000_000 pips"
  require (0 < tickSpacing) "tick spacing must be positive"
  require (minTick ≤ tick ∧ tick ≤ maxTick) "tick is out of range"
  require (minSqrtRatio ≤ sqrtPriceX96 ∧ sqrtPriceX96 < maxSqrtRatio) "sqrt price is out of range"
  require (0 < liquidity) "active liquidity must be positive"
  return ⟨feeZeroForOnePips, feeOneForZeroPips, tickSpacing, sqrtPriceX96, tick, liquidity, ∅, ∅,
    feeProfile.tickTraversal, feeProfile⟩

/-- A pool with one static fee. -/
def new : Except String ClmmPool :=
  newWithProfile feePips feePips tickSpacing sqrtPriceX96 tick liquidity .static

/-- A Camelot pool, with one fee for each direction. -/
def newAlgebraV19 : Except String ClmmPool :=
  newWithProfile feeZeroForOnePips feeOneForZeroPips tickSpacing sqrtPriceX96 tick liquidity
    .algebraDirectional

/-- A Lynex pool, whose two directions share their fee. -/
def newSingleFeeAlgebraV19 : Except String ClmmPool :=
  newWithProfile feePips feePips tickSpacing sqrtPriceX96 tick liquidity .algebraSingle

end New

def setAlgebraDirectionalFees (pool : ClmmPool) (feeZeroForOnePips feeOneForZeroPips : Nat) :
    Except String ClmmPool := do
  require (pool.tickTraversal = .algebraRaw ∧ pool.feeProfile = .algebraDirectional)
    "directional fees require the directional Algebra V1.9 profile"
  require (feeZeroForOnePips < 1000000 ∧ feeOneForZeroPips < 1000000)
    "fee must be below 1_000_000 pips"
  return { pool with feePips := feeZeroForOnePips, oneForZeroFeePips := feeOneForZeroPips }

def setAlgebraSingleFee (pool : ClmmPool) (feePips : Nat) : Except String ClmmPool := do
  require (pool.tickTraversal = .algebraRaw ∧ pool.feeProfile = .algebraSingle)
    "single fee requires the single-fee Algebra V1.9 profile"
  return { pool with feePips := feePips, oneForZeroFeePips := feePips }

/-- The post-Swap head that the pool emitted. -/
def applySwapHead (pool : ClmmPool) (sqrtPriceX96 : Nat) (tick : Int) (liquidity : Nat) :
    Except String ClmmPool := do
  require (minSqrtRatio ≤ sqrtPriceX96 ∧ sqrtPriceX96 < maxSqrtRatio) "sqrt price is out of range"
  require (minTick ≤ tick ∧ tick ≤ maxTick) "tick is out of range"
  require (0 < liquidity) "active liquidity must be positive"
  return { pool with sqrtPriceX96 := sqrtPriceX96, tick := tick, liquidity := liquidity }

section Ticks

variable (math : UniswapV3Math)

/-- The bitmap with the bit of `tick` toggled: compressed by the spacing, or by raw tick in
Algebra's rows of 256. -/
def flipTick (pool : ClmmPool) (tick : Int) : Except String ClmmPool :=
  match pool.tickTraversal with
  | .spacingCompressed => do
    let bitmap ← (math.flipTick pool.tickBitmap tick pool.tickSpacing).mapError fun _ =>
      "failed to toggle spacing-compressed tick"
    return { pool with tickBitmap := bitmap }
  | .algebraRaw => do
    let word ← orError (checkedInt 16 (tick / 256)) "Algebra tick row exceeds int16"
    let bit := (tick % 256).toNat
    let entry := pool.tickBitmap.getD word 0
    return { pool with tickBitmap := pool.tickBitmap.insert word (entry ^^^ (1 <<< bit)) }

variable (pool : ClmmPool)

/-- Installs the absolute liquidity of a tick; a tick without gross liquidity is not kept. -/
def setTick (index : Int) (gross : Nat) (net : Int) : Except String ClmmPool := do
  require (index.tmod pool.tickSpacing = 0) "tick does not align to spacing"
  require (minTick ≤ index ∧ index ≤ maxTick) "tick is out of range"
  match pool.ticks[index]?, gross with
  | none, 0 => return pool
  | none, _ => do
    let flipped ← (pool.flipTick math index).mapError fun _ => "failed to initialize tick bitmap bit"
    return { flipped with ticks := pool.ticks.insert index ⟨gross, net⟩ }
  | some _, 0 => do
    let flipped ← (pool.flipTick math index).mapError fun _ => "failed to clear tick bitmap bit"
    return { flipped with ticks := pool.ticks.erase index }
  | some _, _ => return { pool with ticks := pool.ticks.insert index ⟨gross, net⟩ }

/-- Whether a range contains the current tick. -/
def inRange (tickLower tickUpper : Int) : Bool :=
  tickLower ≤ pool.tick ∧ pool.tick < tickUpper

/-- The active liquidity after a delta on a range. -/
def activeLiquidity (tickLower tickUpper delta : Int) : Except String Nat :=
  if pool.inRange tickLower tickUpper then
    (math.addDelta pool.liquidity delta).mapError fun _ => "active liquidity update failed"
  else
    .ok pool.liquidity

/-- The boundaries and the active liquidity moved by a non-zero delta. -/
def moveLiquidity (tickLower tickUpper delta : Int) : Except String ClmmPool := do
  let amount := delta.natAbs
  let lower ← updatedBoundary pool.ticks[tickLower]? amount delta (0 < delta)
  let upperNetDelta ← orError (checkedInt 128 (-delta)) "liquidity delta overflow"
  let upper ← updatedBoundary pool.ticks[tickUpper]? amount upperNetDelta (0 < delta)
  let active ← pool.activeLiquidity math tickLower tickUpper delta
  let moved ← pool.setTick math tickLower lower.gross lower.net
  let moved ← moved.setTick math tickUpper upper.gross upper.net
  return { moved with liquidity := active }

/-- A Mint, Burn or ModifyLiquidity on a range of ticks. -/
def applyLiquidityDelta (tickLower tickUpper delta : Int) :
    Except String ClmmPool := do
  require (tickLower < tickUpper) "liquidity range is empty"
  require (tickLower.tmod pool.tickSpacing = 0 ∧ tickUpper.tmod pool.tickSpacing = 0)
    "liquidity range does not align to tick spacing"
  require ((minTick ≤ tickLower ∧ tickLower ≤ maxTick) ∧ minTick ≤ tickUpper ∧ tickUpper ≤ maxTick)
    "liquidity range is out of bounds"
  if delta = 0 then return pool else pool.moveLiquidity math tickLower tickUpper delta

end Ticks

/-! ## The head -/

variable {liquidity : Nat} {next pool : ClmmPool} {tick : Int}

theorem applySwapHead_eq_ok {sqrtPriceX96 : Nat} :
    pool.applySwapHead sqrtPriceX96 tick liquidity = .ok next ↔
      (minSqrtRatio ≤ sqrtPriceX96 ∧ sqrtPriceX96 < maxSqrtRatio) ∧
      (minTick ≤ tick ∧ tick ≤ maxTick) ∧ 0 < liquidity ∧
      next = { pool with sqrtPriceX96 := sqrtPriceX96, tick := tick, liquidity := liquidity } := by
  simp only [applySwapHead, bind_eq_ok, require_eq_ok, pure_eq_ok, exists_const]
  constructor
  · rintro ⟨price, inTicks, positive, rfl⟩
    exact ⟨price, inTicks, positive, rfl⟩
  · rintro ⟨price, inTicks, positive, rfl⟩
    exact ⟨price, inTicks, positive, rfl⟩

/-- A Swap leaves nothing of an earlier one: the head is replaced, and nothing else is touched. -/
theorem applySwapHead_applySwapHead {middle : ClmmPool} {price price' : Nat} {tick' : Int}
    {liquidity' : Nat} (first : pool.applySwapHead price tick liquidity = .ok middle)
    (second : middle.applySwapHead price' tick' liquidity' = .ok next) :
    pool.applySwapHead price' tick' liquidity' = .ok next := by
  obtain ⟨_, _, _, rfl⟩ := applySwapHead_eq_ok.mp first
  obtain ⟨inPrices, inTicks, positive, rfl⟩ := applySwapHead_eq_ok.mp second
  exact applySwapHead_eq_ok.mpr ⟨inPrices, inTicks, positive, rfl⟩

end ClmmPool

end PolyBot.Dex
