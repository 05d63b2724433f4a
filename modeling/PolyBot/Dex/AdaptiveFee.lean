import PolyBot.Lib.Machine
import PolyBot.Lib.Proc

/-!
# The adaptive fee of an Algebra pool

The fee a pool charges as a function of its volatility and of the volume per unit of liquidity, and
the arithmetic under it.  All of it is integer arithmetic of 256 bits; the operators of the
256-bit type wrap, the named checks do not.
-/

namespace PolyBot.Dex

structure AdaptiveFeeConfiguration where
  alpha1 : Nat
  alpha2 : Nat
  beta1 : Nat
  beta2 : Nat
  gamma1 : Nat
  gamma2 : Nat
  volumeBeta : Nat
  volumeGamma : Nat
  baseFee : Nat
  deriving DecidableEq

def u16Max : Nat := 2 ^ 16 - 1

def AdaptiveFeeConfiguration.validate (config : AdaptiveFeeConfiguration) :
    Except String Unit := do
  require (config.alpha1 + config.alpha2 + config.baseFee ≤ u16Max)
    "Camelot adaptive fee maximum exceeds uint16"
  require (config.gamma1 ≠ 0 ∧ config.gamma2 ≠ 0 ∧ config.volumeGamma ≠ 0)
    "Camelot adaptive fee gamma is zero"

def powerEight (value : Nat) : Except String Nat := do
  let squared ← orError (checkedMul 256 value value) "Camelot gamma square overflow"
  let fourth ← orError (checkedMul 256 squared squared) "Camelot gamma fourth power overflow"
  orError (checkedMul 256 fourth fourth) "Camelot gamma eighth power overflow"

/-- One term of the series: the running power of `x`, the falling power of `gamma`, and the sum. -/
def expTerm (x gamma : Nat) (acc : Nat × Nat × Nat) (divisor : Nat) :
    Except String (Nat × Nat × Nat) := do
  let (xPower, gammaPower, result) := acc
  let gammaPower := gammaPower / gamma
  let term ← orError (checkedMul 256 xPower gammaPower) "Camelot exponential term overflow"
  let result ← orError (checkedAdd 256 result (term / divisor)) "Camelot exponential sum overflow"
  let xPower ← orError (checkedMul 256 xPower x) "Camelot exponential power overflow"
  return (xPower, gammaPower, result)

def expSeries (x gamma gammaEighth : Nat) : Except String Nat := do
  let (seventh, _, result) ←
    [1, 2, 6, 24, 120, 720].foldlM (expTerm x gamma) (x, gammaEighth, gammaEighth)
  let eighth ← orError (checkedMul 256 seventh x) "Camelot exponential eighth power overflow"
  let term ← orError (checkedMul 256 seventh gamma) "Camelot exponential seventh term overflow"
  let result ← orError (checkedAdd 256 result (term / 5040)) "Camelot exponential sum overflow"
  orError (checkedAdd 256 result (eighth / 40320)) "Camelot exponential sum overflow"

def sigmoid (x gamma alpha beta : Nat) : Except String Nat := do
  require (gamma ≠ 0) "Camelot sigmoid gamma is zero"
  let sixGamma := gamma * 6
  let gammaEighth ← powerEight gamma
  if beta < x then
    let shifted := x - beta
    if sixGamma ≤ shifted then
      return alpha
    let exponent ← expSeries shifted gamma gammaEighth
    return alpha * exponent % 2 ^ 256 / ((gammaEighth + exponent) % 2 ^ 256)
  else
    let shifted := beta - x
    if sixGamma ≤ shifted then
      return 0
    let series ← expSeries shifted gamma gammaEighth
    let denominator ← orError (checkedAdd 256 gammaEighth series)
      "Camelot sigmoid denominator overflow"
    return alpha * gammaEighth % 2 ^ 256 / denominator

def AdaptiveFeeConfiguration.fee (config : AdaptiveFeeConfiguration)
    (volatility volumePerLiquidity : Nat) : Except String Nat := do
  config.validate
  let first ← sigmoid volatility config.gamma1 config.alpha1 config.beta1
  let second ← sigmoid volatility config.gamma2 config.alpha2 config.beta2
  let sum ← orError (checkedAdd 256 first second) "Camelot sigmoid sum overflow"
  let variableFee ← sigmoid volumePerLiquidity config.volumeGamma (min sum u16Max)
    config.volumeBeta
  let variableFee ← orError (checkedNat 16 variableFee)
    "Camelot volume sigmoid does not fit uint16"
  orError (checkedAdd 16 config.baseFee variableFee) "Camelot adaptive fee overflow"

/-- The seed of the square root: each threshold halves the width of what is left. -/
def sqrtSeed (value : Nat) : Nat :=
  ([(128, 64), (64, 32), (32, 16), (16, 8), (8, 4), (4, 2), (3, 1)].foldl
    (fun (acc : Nat × Nat) (bits : Nat × Nat) =>
      if 2 ^ bits.1 ≤ acc.1 then (acc.1 >>> bits.1, (acc.2 <<< bits.2) % 2 ^ 256) else acc)
    (value, 1)).2

/-- The deployed square root: a fixed seed, seven Newton steps and a final minimum. -/
def integerSqrt (value : Nat) : Nat :=
  if value = 0 then 0
  else
    let root := (List.range 7).foldl
      (fun root _ => ((root + value / root) % 2 ^ 256) >>> 1) (sqrtSeed value)
    min root (value / root)

/-- The volume of a swap per unit of liquidity, in 64 fractional bits and capped. -/
def calculateVolumePerLiquidityNonzero (liquidity : Nat) (amount0 amount1 : Int) : Nat :=
  let absolute0 := amount0.natAbs
  let absolute1 := amount1.natAbs
  let product := Nat.sqrt absolute0 * Nat.sqrt absolute1
  if absolute0 < 2 ^ 128 ∧ absolute1 < 2 ^ 128 ∧ product ≤ 2 ^ 64 - 1 then
    min ((product <<< 64) / liquidity) (100000 <<< 64)
  else
    let product := integerSqrt absolute0 * integerSqrt absolute1 % 2 ^ 256
    let value :=
      if 1 <<< 192 ≤ product then (2 ^ 256 - 1) / liquidity
      else (product <<< 64) % 2 ^ 256 / liquidity
    min value (100000 <<< 64)

end PolyBot.Dex
