import PolyBot.Opportunity.Engine

/-!
# Preflight of an entry

Before a trade is entered, the execution task asks once more whether its opportunity still stands.
It reads a state of its own that the engine keeps up: the last quotes, the transport they came over,
the last head of each chain, and for each pool the two curves of exact inputs that were published
last.

* `EntryPreflightState`, with an operation for each update of the engine.
* `EntryPreflightState.check`: the check.  An opportunity at the price and the generation it was found
  at passes at once.
* `PreflightDexPool.recheck`: the full recomputation otherwise.
-/

namespace PolyBot.Opportunity

open PolyBot.Dex (PreparedQuoteCurve)
open PolyBot.Trade (AdmissionRiskBounds ArbitrageDirection DexRoutePlan DexSwapPlan validateId)

/-- The value of a decimal, by which decimals are compared. -/
def Decimal.value (decimal : Decimal) : ℚ :=
  decimal.mantissa / 10 ^ decimal.scale

/-! ## Opportunities -/

structure PaperOpportunity where
  sourceRevision : String
  pairId : String
  symbol : String
  updateId : Nat
  receivedUnixUs : Nat
  reservationCompletedUnixUs : Nat
  direction : ArbitrageDirection
  dexPoolIndex : Nat
  dexPoolGeneration : Nat
  dexFeeGeneration : Nat
  tokenBBaseUnits : Int
  tokenBStepBaseUnits : Int
  costTokenABaseUnits : Int
  proceedsTokenABaseUnits : Int
  admission : AdmissionRiskBounds
  dexPlan : DexSwapPlan

/-- Whether a route's fee moves with the market. -/
def isAdaptive : DexRoutePlan → Bool
  | .camelotV3 .. | .lynexAlgebraV19 .. => true
  | _ => false

/-- The generations of a route are those of the opportunity; a static fee has none. -/
def validateRouteGenerations (poolGeneration feeGeneration : Nat) :
    DexRoutePlan → Except String Unit
  | .camelotV3 _ _ planned plannedFee _ _ _ _ _ _
  | .lynexAlgebraV19 _ _ planned plannedFee _ _ _ _ => do
    require (planned = poolGeneration)
      "adaptive Algebra plan pool generation differs from opportunity"
    require (plannedFee = feeGeneration)
      "adaptive Algebra plan fee generation differs from opportunity"
  | _ => require (feeGeneration = 0) "static-fee opportunity has a dynamic fee generation"

def PaperOpportunity.validate (opportunity : PaperOpportunity) : Except String Unit := do
  validateId "source revision" opportunity.sourceRevision 96
  validateId "pair id" opportunity.pairId 96
  validateId "symbol" opportunity.symbol 24
  require (0 < opportunity.updateId) "paper opportunity update id is zero"
  require (0 < opportunity.receivedUnixUs) "paper opportunity receive timestamp is zero"
  require (0 < opportunity.reservationCompletedUnixUs)
    "paper opportunity reservation timestamp is zero"
  require (0 < opportunity.tokenBBaseUnits) "paper opportunity token-B amount must be positive"
  require (0 < opportunity.dexPoolGeneration) "paper opportunity DEX pool generation is zero"
  require (0 < opportunity.tokenBStepBaseUnits) "paper opportunity token-B step must be positive"
  require (0 < opportunity.costTokenABaseUnits ∧ 0 < opportunity.proceedsTokenABaseUnits)
    "paper opportunity token-A economics must be positive"
  opportunity.admission.validate
  opportunity.dexPlan.validate
  validateRouteGenerations opportunity.dexPoolGeneration opportunity.dexFeeGeneration
    opportunity.dexPlan.route

/-! ## The state -/

/-- A quote with the connection it came over.  Instants are nanoseconds of a steady clock. -/
structure ReceivedQuote extends TopOfBook where
  updateId : Nat
  connectionGeneration : Nat
  receivedAt : Nat
  deriving DecidableEq

structure PreflightTransportState where
  connectionGeneration : Nat
  connected : Bool
  lastActivityAt : Nat
  deriving DecidableEq

structure PreflightDexPool where
  generation : Nat
  feeGeneration : Nat
  tokenADecimals : Nat
  tokenBDecimals : Nat
  exactInputByDirection : ArbitrageDirection → PreparedQuoteCurve

/-- The curves by which each direction is quoted again: an exact input of token A for a buy, of
token B for a sale. -/
def PreparedPoolQuotes.exactInputByDirection (quotes : PreparedPoolQuotes) :
    ArbitrageDirection → PreparedQuoteCurve
  | .buyTokenBOnDexSellOnCex => quotes.tokenAExactInput
  | .buyTokenBOnCexSellOnDex => quotes.exactInput

def OpportunityEngine.preflightExactInputCurves (engine : OpportunityEngine) (poolIndex : Nat) :
    Except String (Option (ArbitrageDirection → PreparedQuoteCurve)) := do
  let prepared ← orError engine.preparedPools[poolIndex]? "preflight pool index is invalid"
  return prepared.map (·.quotes.exactInputByDirection)

structure EntryPreflightState where
  quotes : String → Option ReceivedQuote
  maxTransportSilenceMs : String → Option Nat
  transport : String → Option PreflightTransportState
  dexMaxHeadAgeMs : Option Nat
  dexHeadReceivedAt : String → Option Nat
  dexPools : String × Nat → Option PreflightDexPool

variable (state : EntryPreflightState) (pool : PreflightDexPool)

namespace EntryPreflightState

def default : EntryPreflightState :=
  ⟨fun _ => none, fun _ => none, fun _ => none, none, fun _ => none, fun _ => none⟩

def configureMaxTransportSilence (symbol : String) (maxAgeMs : Nat) : EntryPreflightState :=
  { state with
    maxTransportSilenceMs := Function.update state.maxTransportSilenceMs symbol (some maxAgeMs) }

def configureDexMaxHeadAge (maxAgeMs : Nat) : EntryPreflightState :=
  { state with dexMaxHeadAgeMs := some maxAgeMs }

def updateDexHead (pairId : String) (receivedAt : Nat) : EntryPreflightState :=
  if (state.dexHeadReceivedAt pairId).all (· ≤ receivedAt) then
    { state with
      dexHeadReceivedAt := Function.update state.dexHeadReceivedAt pairId (some receivedAt) }
  else state

def setTransport (symbol : String) (transport : PreflightTransportState) : EntryPreflightState :=
  { state with transport := Function.update state.transport symbol (some transport) }

def onFeedConnected (symbol : String) (connectionGeneration observedAt : Nat) :
    EntryPreflightState :=
  if (state.transport symbol).all (·.connectionGeneration ≤ connectionGeneration) then
    state.setTransport symbol ⟨connectionGeneration, true, observedAt⟩
  else state

def onFeedDisconnected (symbol : String) (connectionGeneration : Nat) : EntryPreflightState :=
  match state.transport symbol with
  | some current =>
    if current.connectionGeneration = connectionGeneration then
      state.setTransport symbol { current with connected := false }
    else state
  | none => state

def recordTransportActivity (symbol : String) (connectionGeneration observedAt : Nat) :
    EntryPreflightState :=
  match state.transport symbol with
  | some current =>
    if current.connected ∧ current.connectionGeneration = connectionGeneration then
      state.setTransport symbol { current with lastActivityAt := observedAt }
    else state
  | none => state

/-- A quote supersedes those of earlier connections and the earlier ones of its own. -/
def supersedes (quote current : ReceivedQuote) : Bool :=
  current.connectionGeneration < quote.connectionGeneration ||
    (quote.connectionGeneration = current.connectionGeneration && current.updateId ≤ quote.updateId)

def updateQuote (quote : ReceivedQuote) : EntryPreflightState :=
  if (state.quotes quote.symbol).all (supersedes quote) then
    { state.setTransport quote.symbol ⟨quote.connectionGeneration, true, quote.receivedAt⟩ with
      quotes := Function.update state.quotes quote.symbol (some quote) }
  else state

def updateDexPoolWithFeeGeneration (pairId : String)
    (poolIndex generation feeGeneration tokenADecimals tokenBDecimals : Nat)
    (exactInputByDirection : ArbitrageDirection → PreparedQuoteCurve) : EntryPreflightState :=
  { state with
    dexPools := Function.update state.dexPools (pairId, poolIndex)
      (some ⟨generation, feeGeneration, tokenADecimals, tokenBDecimals, exactInputByDirection⟩) }

end EntryPreflightState

/-! ## Prices -/

/-- The powers of ten of the preflight differ from the evaluation's by their error. -/
def pow10U256 (exponent : Nat) : Except String Nat :=
  (pow10 exponent).mapError fun _ => "preflight decimal scale overflow"

/-- A product of three factors in 256 bits. -/
def checkedMulMul (a b c : Nat) : Option Nat := do
  let product ← checkedMul 256 a b
  checkedMul 256 product c

def tokenBAtPriceInTokenABaseUnits (tokenBAmount : Nat) (tokenAPerTokenB : Decimal)
    (tokenADecimals tokenBDecimals : Nat) (roundUp : Bool) : Except String Nat := do
  require (0 < tokenAPerTokenB.mantissa) "preflight CEX price is non-positive"
  let tokenAScale ← pow10U256 tokenADecimals
  let numerator ← orError (checkedMulMul tokenBAmount tokenAPerTokenB.mantissa.toNat tokenAScale)
    "preflight CEX quote numerator overflow"
  let tokenBScale ← pow10U256 tokenBDecimals
  let priceScale ← pow10U256 tokenAPerTokenB.scale
  let denominator ← orError (checkedMul 256 tokenBScale priceScale)
    "preflight CEX quote denominator overflow"
  orError (roundedQuotient 256 numerator denominator roundUp) "preflight CEX quote rounding overflow"

def meetsSpreadThreshold (proceedsTokenA costTokenA thresholdBps : Nat) : Except String Bool := do
  require (0 < costTokenA) "preflight cost is zero"
  let left ← orError (checkedMul 256 proceedsTokenA bpsDenominator)
    "preflight threshold proceeds overflow"
  let right ← orError (checkedMul 256 costTokenA (bpsDenominator + thresholdBps))
    "preflight threshold cost overflow"
  return right ≤ left

/-! ## The check -/

structure EntryPreflightRejection where
  reason : String
  detail : String
  deriving DecidableEq

/-- The two clocks of a check: the steady one in nanoseconds, and the seconds since the epoch unless
the system clock is before it. -/
structure PreflightClock where
  instant : Nat
  unixSeconds : Option Nat
  deriving DecidableEq

/-- `since.elapsed() > Duration::from_millis(maxMs)`. -/
def olderThan (clock : PreflightClock) (since maxMs : Nat) : Bool :=
  maxMs * 1000000 < clock.instant - since

namespace EntryPreflightState

def notFresh (detail : String) : EntryPreflightRejection :=
  ⟨"preflight_price_not_fresh", detail⟩

/-- Whether a quote's transport is silent, gone or another one. -/
def transportSilent (clock : PreflightClock) (quote : ReceivedQuote) (symbol : String) : Bool :=
  (state.transport symbol).all fun transport =>
    !transport.connected || transport.connectionGeneration ≠ quote.connectionGeneration ||
      (state.maxTransportSilenceMs symbol).all (olderThan clock transport.lastActivityAt)

/-- Whether the last head of a pair is missing or too old. -/
def headSilent (clock : PreflightClock) (pairId : String) : Bool :=
  (state.dexHeadReceivedAt pairId).all fun receivedAt =>
    state.dexMaxHeadAgeMs.all (olderThan clock receivedAt)

/-- The fresh quote and the pool of an opportunity. -/
def liveInputs (clock : PreflightClock) (opportunity : PaperOpportunity) :
    Except EntryPreflightRejection (ReceivedQuote × PreflightDexPool) := do
  let symbol := opportunity.symbol
  let quote ← orError (state.quotes symbol) (notFresh s!"no latest quote for {symbol}")
  require (state.transportSilent clock quote symbol = false) (notFresh
    s!"Binance price for {symbol} has no transport activity inside the configured freshness window")
  require (state.headSilent clock opportunity.pairId = false)
    (notFresh "DEX head has no observation inside the configured freshness window")
  let index := opportunity.dexPoolIndex
  let pool ← orError (state.dexPools (opportunity.pairId, index))
    (notFresh s!"no current local DEX pool for index {index}")
  return (quote, pool)

end EntryPreflightState

/-- The price of the side that an opportunity trades on. -/
def relevantBinancePrice (quote : TopOfBook) : ArbitrageDirection → Decimal
  | .buyTokenBOnDexSellOnCex => quote.bidPrice
  | .buyTokenBOnCexSellOnDex => quote.askPrice

/-- Whether the deadline of an adaptive route has passed. -/
def feeHorizonExpired (clock : PreflightClock) (plan : DexSwapPlan) : Except String Bool :=
  if isAdaptive plan.route then do
    let now ← orError clock.unixSeconds "system clock is before Unix epoch"
    return plan.deadlineUnixSeconds < now
  else .ok false

namespace PreflightDexPool

variable (quote : TopOfBook) (opportunity : PaperOpportunity)

/-- Whether an opportunity was found at this price and at this generation. -/
def unchanged : Bool :=
  opportunity.admission.opportunityThresholdMet &&
    (relevantBinancePrice quote opportunity.direction).value =
      opportunity.admission.cexPrimaryLimitPrice &&
    pool.generation = opportunity.dexPoolGeneration &&
    pool.feeGeneration = opportunity.dexFeeGeneration

/-- The cost and the proceeds of an opportunity at a quote, with the output of its swap. -/
def currentAmounts (direction : ArbitrageDirection) (amountIn amountOut : Nat) :
    Except String (Nat × Nat) :=
  match direction with
  | .buyTokenBOnDexSellOnCex => do
    let proceeds ← tokenBAtPriceInTokenABaseUnits amountOut quote.bidPrice pool.tokenADecimals
      pool.tokenBDecimals false
    return (amountIn, proceeds)
  | .buyTokenBOnCexSellOnDex => do
    let cost ← tokenBAtPriceInTokenABaseUnits amountIn quote.askPrice pool.tokenADecimals
      pool.tokenBDecimals true
    return (cost, amountOut)

/-- The spread of an opportunity whose swap yields enough. -/
def recheckSpread (amountOut : Nat) : Except String (Option EntryPreflightRejection) := do
  let threshold := opportunity.admission.opportunityThresholdBps
  let (cost, proceeds) ← pool.currentAmounts quote opportunity.direction
    opportunity.dexPlan.amountInBaseUnits amountOut
  let meets ← meetsSpreadThreshold proceeds cost threshold
  let was := opportunity.dexFeeGeneration
  let now := pool.feeGeneration
  return if meets = false then
    some ⟨"preflight_spread_below_threshold",
      s!"current proceeds {proceeds} and cost {cost} no longer satisfy {threshold} bps"⟩
  else if isAdaptive opportunity.dexPlan.route = true ∧ now ≠ was then
    some ⟨"preflight_fee_generation_changed",
      s!"adaptive Algebra fee generation advanced from {was} to {now}"⟩
  else none

/-- The full recomputation of an opportunity on the curves of its pool. -/
def recheck : Except String (Option EntryPreflightRejection) :=
  let minimum := opportunity.dexPlan.amountOutMinimumBaseUnits
  match (pool.exactInputByDirection opportunity.direction).quote
      opportunity.dexPlan.amountInBaseUnits with
  | .error error => .ok (some ⟨"preflight_spread_below_threshold",
      s!"current local DEX quote is unavailable: {error.message}"⟩)
  | .ok amountOut =>
    if amountOut < minimum then .ok (some ⟨"preflight_dex_minimum_not_met",
      s!"current DEX output {amountOut} is below immutable transaction minimum {minimum}"⟩)
    else pool.recheckSpread quote opportunity amountOut

/-- The check of an opportunity whose quote and pool are there. -/
def checkAt (clock : PreflightClock) (quote : TopOfBook) (opportunity : PaperOpportunity) :
    Except String (Option EntryPreflightRejection) := do
  if ← feeHorizonExpired clock opportunity.dexPlan then
    return some ⟨"preflight_fee_horizon_expired",
      "adaptive Algebra transaction deadline is outside the live fee horizon"⟩
  else if pool.unchanged quote opportunity then return none
  else pool.recheck quote opportunity

end PreflightDexPool

def EntryPreflightState.check (clock : PreflightClock) (opportunity : PaperOpportunity) :
    Except String (Option EntryPreflightRejection) := do
  opportunity.validate
  match state.liveInputs clock opportunity with
  | .error rejection => return some rejection
  | .ok (quote, pool) => pool.checkAt clock quote.toTopOfBook opportunity

end PolyBot.Opportunity
