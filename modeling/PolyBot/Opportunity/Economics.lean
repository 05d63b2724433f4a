import PolyBot.Trade.Operation

/-!
# Prices and sizes of an opportunity

The integer arithmetic that compares a DEX quote with the top of the CEX book.  Amounts are base
units in 256 bits; most functions have a fast path in 128 bits that falls back to the wide one where
a product does not fit.
-/

namespace PolyBot.Opportunity

open PolyBot.Trade (ArbitrageDirection)

/-- A decimal as the library stores it: 96 bits and a sign over a power of ten. -/
structure Decimal where
  mantissa : Int
  scale : Nat
  mantissa_lt : mantissa.natAbs < 2 ^ 96
  scale_le : scale ≤ 28
  deriving DecidableEq

/-- The best bid and ask of a symbol. -/
structure TopOfBook where
  symbol : String
  bidPrice : Decimal
  bidQuantity : Decimal
  askPrice : Decimal
  askQuantity : Decimal
  deriving DecidableEq

/-- What a pair needs at run time. -/
structure PairRuntime where
  symbol : String
  tokenADecimals : Nat
  tokenBDecimals : Nat
  opportunityThresholdBps : Nat
  minSlippageBps : Nat
  maxSlippageBps : Nat
  slippageProfitShareBps : Nat
  baselineTokenA : Nat
  preparedTokenALimit : Nat
  tokenBStep : Nat
  tokenA : Address
  tokenB : Address
  poolIndices : List Nat
  selectionPoolIndices : List Nat
  deriving DecidableEq

structure TradeEvaluation where
  poolIndex : Nat
  tokenBAmount : Nat
  dexTokenAAmount : Nat
  cexTokenAAmount : Nat
  costTokenA : Nat
  proceedsTokenA : Nat
  dexAmountIn : Nat
  dexAmountOutMinimum : Nat
  executionSlippageBps : Nat
  grossProfitBpsX100 : Int
  meetsThreshold : Bool
  deriving DecidableEq

def bpsDenominator : Nat := 10000
def profitBpsScale : Nat := 1000000

/-- `u16::MAX`. -/
def u16Max : Nat := 2 ^ 16 - 1

/-- `i64::MAX`. -/
def i64Max : Int := 2 ^ 63 - 1

/-! ## Powers of ten -/

def pow10 : Nat → Except String Nat
  | 0 => .ok 1
  | exponent + 1 => do
    let value ← pow10 exponent
    orError (checkedMul 256 value 10) "power of ten exceeds U256"

def pow10U128 (exponent : Nat) : Option Nat :=
  checkedNat 128 (10 ^ exponent)

def scaleUp (value : Nat) (exponent : Int) : Except String Nat := do
  require (0 ≤ exponent) "scale exponent must not be negative"
  let scale ← pow10 exponent.toNat
  orError (checkedMul 256 value scale) "power-of-ten scaling overflow"

/-! ## Amounts and prices -/

def roundDownToStep (amount step : Nat) : Nat :=
  amount / step * step

def positiveDecimalMantissa (value : Decimal) : Except String Nat := do
  require (0 < value.mantissa) "price must be positive"
  return value.mantissa.toNat

/-- The fast path of `decimalToBaseUnits`. -/
def decimalToBaseUnitsU128 (mantissa scale decimals : Nat) : Option Nat := do
  let numeratorScale ← pow10U128 decimals
  let denominator ← pow10U128 scale
  let numerator ← checkedMul 128 mantissa numeratorScale
  return numerator / denominator

def decimalToBaseUnits (value : Decimal) (decimals : Nat) : Except String Nat := do
  require (0 ≤ value.mantissa) "decimal amount must not be negative"
  let mantissa := value.mantissa.toNat
  match decimalToBaseUnitsU128 mantissa value.scale decimals with
  | some amount => return amount
  | none => do
    let scale ← pow10 decimals
    let numerator ← orError (checkedMul 256 mantissa scale) "decimal base-unit numerator overflow"
    let denominator ← pow10 value.scale
    return numerator / denominator

/-- The power of ten between base units of the two tokens at a price. -/
def priceExponent (price : Decimal) (tokenADecimals tokenBDecimals : Nat) : Int :=
  tokenBDecimals + price.scale - tokenADecimals

/-- The fast path of `tokenAToTokenBFloor`. -/
def tokenAToTokenBFloorU128 (tokenAAmount mantissa : Nat) (exponent : Int) : Option Nat := do
  let amount ← checkedNat 128 tokenAAmount
  if 0 ≤ exponent then do
    let scale ← pow10U128 exponent.toNat
    let numerator ← checkedMul 128 amount scale
    return numerator / mantissa
  else do
    let scale ← pow10U128 (-exponent).toNat
    let denominator ← checkedMul 128 mantissa scale
    return amount / denominator

def tokenAToTokenBFloor (tokenAAmount : Nat) (price : Decimal)
    (tokenADecimals tokenBDecimals : Nat) : Except String Nat := do
  let mantissa ← positiveDecimalMantissa price
  let exponent := priceExponent price tokenADecimals tokenBDecimals
  match tokenAToTokenBFloorU128 tokenAAmount mantissa exponent with
  | some amount => return amount
  | none =>
    if 0 ≤ exponent then do
      let numerator ← scaleUp tokenAAmount exponent
      return numerator / mantissa
    else do
      let scale ← pow10 (-exponent).toNat
      let denominator ← orError (checkedMul 256 mantissa scale) "inverse price denominator overflow"
      return tokenAAmount / denominator

/-- A quotient, rounded up when asked to and when it is not exact. -/
def roundedQuotient (width numerator denominator : Nat) (roundUp : Bool) : Option Nat :=
  if roundUp = true ∧ numerator % denominator ≠ 0 then checkedAdd width (numerator / denominator) 1
  else some (numerator / denominator)

/-- The fast path of `tokenBToTokenA`. -/
def tokenBToTokenAU128 (tokenBAmount mantissa : Nat) (exponent : Int) (roundUp : Bool) :
    Option Nat := do
  let amount ← checkedNat 128 tokenBAmount
  let product ← checkedMul 128 amount mantissa
  if exponent ≤ 0 then do
    let scale ← pow10U128 (-exponent).toNat
    checkedMul 128 product scale
  else do
    let denominator ← pow10U128 exponent.toNat
    roundedQuotient 128 product denominator roundUp

def tokenBToTokenA (tokenBAmount : Nat) (price : Decimal) (tokenADecimals tokenBDecimals : Nat)
    (roundUp : Bool) : Except String Nat := do
  let mantissa ← positiveDecimalMantissa price
  let exponent := priceExponent price tokenADecimals tokenBDecimals
  match tokenBToTokenAU128 tokenBAmount mantissa exponent roundUp with
  | some amount => return amount
  | none => do
    let product ← orError (checkedMul 256 tokenBAmount mantissa) "token-B price product overflow"
    if exponent ≤ 0 then
      (scaleUp product (-exponent)).mapError fun _ => "token-A price scaling overflow"
    else do
      let denominator ← pow10 exponent.toNat
      orError (roundedQuotient 256 product denominator roundUp) "rounded token-A amount overflow"

def cexTokenAAmount (pair : PairRuntime) (quote : TopOfBook) (direction : ArbitrageDirection)
    (tokenBAmount : Nat) : Except String Nat :=
  match direction with
  | .buyTokenBOnDexSellOnCex =>
    tokenBToTokenA tokenBAmount quote.bidPrice pair.tokenADecimals pair.tokenBDecimals false
  | .buyTokenBOnCexSellOnDex =>
    tokenBToTokenA tokenBAmount quote.askPrice pair.tokenADecimals pair.tokenBDecimals true

/-! ## Profit and slippage -/

/-- `BPS_DENOMINATOR - bps` on `u64`; the configuration keeps `bps` below the denominator. -/
def bpsKept (bps : Nat) : Nat :=
  wrappingSub 64 bpsDenominator bps

/-- The fast path of `subtractBpsFloor`. -/
def subtractBpsFloorU128 (amount bps : Nat) : Option Nat := do
  let amount ← checkedNat 128 amount
  let numerator ← checkedMul 128 amount (bpsKept bps)
  return numerator / bpsDenominator

def subtractBpsFloor (amount bps : Nat) : Except String Nat :=
  match subtractBpsFloorU128 amount bps with
  | some value => .ok value
  | none => do
    let numerator ← orError (checkedMul 256 amount (bpsKept bps)) "proceeds reserve overflow"
    return numerator / bpsDenominator

/-- The two sides of the threshold when they fit 128 bits. -/
def thresholdSidesU128 (proceeds cost thresholdBps : Nat) : Option (Nat × Nat) := do
  let proceeds ← checkedNat 128 proceeds
  let cost ← checkedNat 128 cost
  let left ← checkedMul 128 proceeds bpsDenominator
  let right ← checkedMul 128 cost (bpsDenominator + thresholdBps)
  return (left, right)

def meetsThreshold (proceeds cost thresholdBps : Nat) : Except String Bool :=
  match thresholdSidesU128 proceeds cost thresholdBps with
  | some (left, right) => .ok (right ≤ left)
  | none => do
    let left ← orError (checkedMul 256 proceeds bpsDenominator) "threshold proceeds overflow"
    let right ← orError (checkedMul 256 cost (bpsDenominator + thresholdBps))
      "threshold cost overflow"
    return right ≤ left

/-- A ratio with the sign of `proceeds - cost`, capped at the greatest `i64`. -/
def signedRatio (proceeds cost magnitude : Nat) : Int :=
  let capped := min (magnitude : Int) i64Max
  if cost ≤ proceeds then capped else -capped

/-- The scaled difference when it fits 128 bits. -/
def scaledDeltaU128 (proceeds cost delta : Nat) : Option Nat := do
  let _ ← checkedNat 128 proceeds
  let _ ← checkedNat 128 cost
  checkedMul 128 delta profitBpsScale

def signedProfitBpsX100 (proceeds cost : Nat) : Except String Int := do
  require (cost ≠ 0) "profit cost must be positive"
  let delta := if cost ≤ proceeds then proceeds - cost else cost - proceeds
  match scaledDeltaU128 proceeds cost delta with
  | some scaled => return signedRatio proceeds cost (scaled / cost)
  | none => do
    let scaled ← orError (checkedMul 256 delta profitBpsScale) "profit ratio overflow"
    return signedRatio proceeds cost (scaled / cost)

def slippageBps (pair : PairRuntime) (profitBps : Nat) : Except String Nat := do
  let product ← orError (checkedMul 32 profitBps pair.slippageProfitShareBps)
    "slippage profit-share multiplication overflow"
  let allocated ← orError (checkedNat 16 (product / 10000)) "allocated slippage exceeds u16"
  return min (max allocated pair.minSlippageBps) pair.maxSlippageBps

def tradeIsBetter (candidate current : TradeEvaluation) : Bool :=
  candidate.grossProfitBpsX100 > current.grossProfitBpsX100 ||
    (candidate.grossProfitBpsX100 = current.grossProfitBpsX100 &&
      (candidate.tokenBAmount > current.tokenBAmount ||
        (candidate.tokenBAmount = current.tokenBAmount &&
          candidate.poolIndex < current.poolIndex)))

end PolyBot.Opportunity
