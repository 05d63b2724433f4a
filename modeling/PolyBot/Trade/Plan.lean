import PolyBot.Lib.Keccak
import PolyBot.Dex.Events

/-!
# Swap plans

The swap that an admitted trade will send to the DEX, as it stands in the journal with its addresses
as texts.

* `DexSwapPlan.validate`: the checks at admission and again before each execution.
-/

namespace PolyBot.Trade

open PolyBot.Dex (abiWord)

/-! ## Texts of addresses and hashes -/

def hexDigit (c : Char) : Option Nat :=
  if '0' ≤ c ∧ c ≤ '9' then some (c.toNat - '0'.toNat)
  else if 'a' ≤ c ∧ c ≤ 'f' then some (c.toNat - 'a'.toNat + 10)
  else if 'A' ≤ c ∧ c ≤ 'F' then some (c.toNat - 'A'.toNat + 10)
  else none

/-- The characters after a leading `0x`, if there is one. -/
def withoutHexMark : List Char → List Char
  | '0' :: 'x' :: rest => rest
  | text => text

/-- The number of exactly `digits` hexadecimal digits. -/
def parseHex (digits : Nat) (text : String) : Option Nat := do
  let characters := withoutHexMark text.toList
  guard (characters.length = digits)
  let values ← characters.mapM hexDigit
  return values.foldl (fun value digit => value * 16 + digit) 0

/-- `Address::from_str`. -/
def addressFromStr (text : String) : Option Address :=
  (parseHex 40 text).map (BitVec.ofNat 160)

/-- `B256::from_str`. -/
def hashFromStr (text : String) : Option B256 :=
  (parseHex 64 text).map (BitVec.ofNat 256)

def parseAddress (name value : String) : Except String Address := do
  let address ← orError (addressFromStr value) s!"invalid {name}"
  require (address ≠ 0) s!"{name} is zero"
  return address

def parseHooksAddress (name value : String) : Except String Address :=
  orError (addressFromStr value) s!"invalid {name}"

/-! ## V4 pool keys -/

structure V4PoolKey where
  currency0 : Address
  currency1 : Address
  feePips : Nat
  tickSpacing : Int
  hooks : Address
  deriving DecidableEq

namespace V4PoolKey

def new (currencyA currencyB : Address) (feePips : Nat) (tickSpacing : Int) (hooks : Address) :
    Except String V4PoolKey := do
  require (currencyA ≠ currencyB) "pool currencies must differ"
  require (feePips < 1000000) "static fee must be below 1_000_000 pips"
  require (0 < tickSpacing) "tick spacing must be positive"
  return if currencyA < currencyB then ⟨currencyA, currencyB, feePips, tickSpacing, hooks⟩
    else ⟨currencyB, currencyA, feePips, tickSpacing, hooks⟩

/-- The spacing as `pool_id` encodes it: its low three bytes, extended by its sign. -/
def encodedSpacing (tickSpacing : Int) : Int :=
  tickSpacing % 2 ^ 24 - if tickSpacing < 0 then 2 ^ 24 else 0

def poolId (key : V4PoolKey) : B256 :=
  Keccak.keccak256 (abiWord key.currency0.toNat ++ abiWord key.currency1.toNat ++
    abiWord (key.feePips % 2 ^ 24) ++ abiWord (encodedSpacing key.tickSpacing) ++
    abiWord key.hooks.toNat)

end V4PoolKey

/-! ## Plans -/

inductive DexRoutePlan
  | uniswapV3 (router poolAddress : String) (feePips : Nat)
  | pancakeSwapV3 (router poolAddress : String) (feePips : Nat)
  | camelotV3 (router poolAddress : String) (poolGeneration feeGeneration : Nat)
      (feeZtoCurrentPips feeOtzCurrentPips feeZtoEnvelopePips feeOtzEnvelopePips : Nat)
      (feeHorizonFirstUnixSeconds feeHorizonLastUnixSeconds : Nat)
  | lynexAlgebraV19 (router poolAddress : String) (poolGeneration feeGeneration : Nat)
      (feeCurrentPips feeEnvelopePips : Nat)
      (feeHorizonFirstUnixSeconds feeHorizonLastUnixSeconds : Nat)
  | uniswapV4 (router poolId currency0 currency1 : String) (feePips : Nat) (tickSpacing : Int)
      (hooks : String)
  deriving DecidableEq

structure DexSwapPlan where
  route : DexRoutePlan
  tokenIn : String
  tokenOut : String
  amountInBaseUnits : Nat
  amountOutMinimumBaseUnits : Nat
  deadlineUnixSeconds : Nat
  deriving DecidableEq

/-- The generations and the horizon of an adaptive route; `provider` is its name in the errors. -/
def validateAdaptiveRoute (provider : String) (poolGeneration feeGeneration : Nat)
    (envelopeCovers : Bool) (first last deadline : Nat) : Except String Unit := do
  require (0 < poolGeneration) s!"DEX plan {provider} pool generation is zero"
  require (0 < feeGeneration) s!"DEX plan {provider} fee generation is zero"
  require (envelopeCovers = true) s!"DEX plan {provider} envelope is below its current fee"
  require (first ≤ last) s!"DEX plan {provider} fee horizon is reversed"
  require (first ≤ deadline ∧ deadline ≤ last)
    s!"DEX plan {provider} deadline is outside its fee horizon"

/-- The checks of a route; the executor's route is made of the same parts. -/
def DexRoutePlan.validate (tokenIn tokenOut : Address) (deadline : Nat) :
    DexRoutePlan → Except String Unit
  | uniswapV3 router poolAddress feePips => do
    let _ ← parseAddress "DEX plan V3 router" router
    let _ ← parseAddress "DEX plan V3 pool" poolAddress
    require (0 < feePips) "DEX plan V3 fee is zero"
  | pancakeSwapV3 router poolAddress feePips => do
    let _ ← parseAddress "DEX plan Pancake V3 router" router
    let _ ← parseAddress "DEX plan Pancake V3 pool" poolAddress
    require (0 < feePips) "DEX plan Pancake V3 fee is zero"
  | camelotV3 router poolAddress poolGeneration feeGeneration ztoCurrent otzCurrent ztoEnvelope
      otzEnvelope first last => do
    let _ ← parseAddress "DEX plan Camelot V3 router" router
    let _ ← parseAddress "DEX plan Camelot V3 pool" poolAddress
    validateAdaptiveRoute "Camelot" poolGeneration feeGeneration
      (decide (ztoCurrent ≤ ztoEnvelope) && decide (otzCurrent ≤ otzEnvelope)) first last deadline
  | lynexAlgebraV19 router poolAddress poolGeneration feeGeneration current envelope first last => do
    let _ ← parseAddress "DEX plan Lynex router" router
    let _ ← parseAddress "DEX plan Lynex pool" poolAddress
    validateAdaptiveRoute "Lynex" poolGeneration feeGeneration (decide (current ≤ envelope)) first
      last deadline
  | uniswapV4 router poolId currency0 currency1 feePips tickSpacing hooks => do
    let _ ← parseAddress "DEX plan V4 router" router
    let expectedPoolId ← orError (hashFromStr poolId) "invalid DEX plan V4 pool id"
    let currencyA ← parseAddress "DEX plan V4 currency0" currency0
    let currencyB ← parseAddress "DEX plan V4 currency1" currency1
    let hooks ← parseHooksAddress "DEX plan V4 hooks" hooks
    let key ← V4PoolKey.new currencyA currencyB feePips tickSpacing hooks
    require (key.poolId = expectedPoolId) "DEX plan V4 pool id mismatch"
    require (tokenIn = key.currency0 ∧ tokenOut = key.currency1 ∨
        tokenIn = key.currency1 ∧ tokenOut = key.currency0)
      "DEX plan V4 tokens differ from pool key"

def DexSwapPlan.validate (plan : DexSwapPlan) : Except String Unit := do
  require (0 < plan.amountInBaseUnits) "DEX plan input is zero"
  require (0 < plan.amountOutMinimumBaseUnits) "DEX plan minimum output is zero"
  require (0 < plan.deadlineUnixSeconds) "DEX plan deadline is zero"
  let tokenIn ← parseAddress "DEX plan input token" plan.tokenIn
  let tokenOut ← parseAddress "DEX plan output token" plan.tokenOut
  require (tokenIn ≠ tokenOut) "DEX plan tokens are identical"
  plan.route.validate tokenIn tokenOut plan.deadlineUnixSeconds

end PolyBot.Trade
