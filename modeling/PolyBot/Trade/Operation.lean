import PolyBot.Trade.Plan

/-!
# Trades

A trade has one swap on the DEX, one order on the CEX against it and, where the two do not match, a
few market orders.  `TradeOperation` is the durable state of one trade; this module has its parts,
the checks on them, and the sums over the results of its legs.

* `TradeOperation.primaryRecoveryTargetTokenBDeltaBaseUnits`: what the primary legs leave open.
* `TradeOperation.realizedProfitTokenABaseUnits`, `residualValueTokenABaseUnits`: the accounting.
* `validateOperation`: the checks that every journaled state passes.
-/

namespace PolyBot.Trade

open PolyBot.Dex (AdaptiveFeeReceiptProof ChainLog)

/-- A price or a quantity; equality and order are those of the values. -/
abbrev Decimal := ℚ

def i128Max : Int := 2 ^ 127 - 1

/-- `-x` on `i128`, where the least value is its own negation. -/
def negI128 (x : Int) : Int :=
  wrappingInt 128 (-x)

inductive ExecutionMode
  | dexFirst
  | concurrentHedged
  deriving DecidableEq

inductive ArbitrageDirection
  | buyTokenBOnDexSellOnCex
  | buyTokenBOnCexSellOnDex
  deriving DecidableEq

def ArbitrageDirection.dexTokenBDelta (direction : ArbitrageDirection) (amount : Int) : Int :=
  match direction with
  | buyTokenBOnDexSellOnCex => amount
  | buyTokenBOnCexSellOnDex => negI128 amount

def validateId (name value : String) (maximum : Nat) : Except String Unit := do
  require (value ≠ "" ∧ value.utf8ByteSize ≤ maximum) s!"{name} has invalid length"
  require (hasOnly ['-', '_', '.', ':', '/'] value = true) s!"{name} contains unsupported characters"

/-! ## Intents -/

structure TradeJournalScope where
  schemaVersion : Nat
  accountId : String
  networkId : String
  chainId : Nat
  walletId : String
  strategyId : String
  symbol : String
  deriving DecidableEq

/-- `TradeJournalScope::SCHEMA_VERSION`. -/
def tradeScopeSchemaVersion : Nat := 2

def TradeJournalScope.validate (scope : TradeJournalScope) : Except String Unit := do
  require (scope.schemaVersion = tradeScopeSchemaVersion)
    "unsupported trade journal scope schema version"
  validateId "account id" scope.accountId 96
  validateId "network id" scope.networkId 96
  require (0 < scope.chainId) "trade journal scope chain id is zero"
  validateId "wallet id" scope.walletId 128
  validateId "strategy id" scope.strategyId 96
  validateId "symbol" scope.symbol 24

structure AdmissionRiskBounds where
  opportunityThresholdMet : Bool
  opportunityThresholdBps : Nat
  depthSource : Option String
  depthAgeMs : Option Nat
  depthUpdateDelta : Option Nat
  topMatches : Option Bool
  topMismatchReason : Option String
  executionSlippageBps : Nat
  cexPrimaryLimitPrice : Decimal
  cexPrimaryTopQuantity : Decimal
  cexRecoveryLimitPrice : Decimal
  cexRecoverySellLimitPrice : Option Decimal
  cexRecoveryBuyLimitPrice : Option Decimal
  recoveryQuoteTokenABaseUnits : Nat
  recoverySellQuoteTokenABaseUnits : Nat
  recoveryBuyQuoteTokenABaseUnits : Nat
  maximumRecoveryLossTokenABaseUnits : Nat
  maximumFeePerGasWei : Nat
  gasConversionPriceTokenA : Decimal
  maximumGasCostTokenABaseUnits : Nat
  boundedProfitTokenABaseUnits : Nat
  deriving DecidableEq

namespace AdmissionRiskBounds

def depthSources : List String :=
  ["sequence_matched_full_depth", "recent_full_depth", "top_of_book_only"]

def validate (bounds : AdmissionRiskBounds) : Except String Unit := do
  require (bounds.depthSource.all depthSources.contains = true) "admission depth source is invalid"
  require (bounds.topMatches ≠ some true ∨ bounds.topMismatchReason = none)
    "matching admission top cannot have a mismatch reason"
  require (bounds.executionSlippageBps ≤ 10000) "execution slippage exceeds 100%"
  require (bounds.opportunityThresholdBps ≤ 10000) "opportunity threshold exceeds 100%"
  require (0 < bounds.cexPrimaryLimitPrice) "CEX primary limit price is non-positive"
  require (0 ≤ bounds.cexPrimaryTopQuantity) "CEX primary quantity is negative"
  require (0 < bounds.cexRecoveryLimitPrice) "CEX recovery limit price is non-positive"
  require (bounds.cexRecoverySellLimitPrice.all (0 < ·) = true ∧
      bounds.cexRecoveryBuyLimitPrice.all (0 < ·) = true)
    "directional CEX recovery limit price is non-positive"
  require (0 < bounds.recoveryQuoteTokenABaseUnits) "CEX recovery quote is zero"
  require (0 ≤ bounds.gasConversionPriceTokenA) "gas conversion price is negative"

/-- The quote for selling a long residual or buying a short one back. -/
def recoveryQuoteForResidual (bounds : AdmissionRiskBounds) (residualTokenBBaseUnits : Int) : Nat :=
  if 0 < residualTokenBBaseUnits then
    if 0 < bounds.recoverySellQuoteTokenABaseUnits then bounds.recoverySellQuoteTokenABaseUnits
    else bounds.recoveryQuoteTokenABaseUnits
  else if 0 < bounds.recoveryBuyQuoteTokenABaseUnits then bounds.recoveryBuyQuoteTokenABaseUnits
  else bounds.recoveryQuoteTokenABaseUnits

end AdmissionRiskBounds

structure TradeIntent where
  planId : String
  sourceRevision : String
  pairId : String
  journalScope : Option TradeJournalScope
  opportunityReceivedUnixUs : Nat
  opportunityUpdateId : Nat
  mode : ExecutionMode
  direction : ArbitrageDirection
  plannedTokenBBaseUnits : Int
  tokenBStepBaseUnits : Int
  expectedCostTokenABaseUnits : Int
  expectedProceedsTokenABaseUnits : Int
  dexOperationId : String
  cexClientOrderId : String
  admission : Option AdmissionRiskBounds
  dexPlan : Option DexSwapPlan
  deriving DecidableEq

namespace TradeIntent

def expectedProfitTokenABaseUnits (intent : TradeIntent) : Int :=
  saturateInt 128 (intent.expectedProceedsTokenABaseUnits - intent.expectedCostTokenABaseUnits)

/-- The step of a newly admitted trade, or of one from an old journal. -/
def validateStep (intent : TradeIntent) : Except String Unit :=
  if intent.admission.isSome then
    require (0 < intent.tokenBStepBaseUnits) "newly admitted token-B step must be positive"
  else
    require (0 ≤ intent.tokenBStepBaseUnits) "historical token-B step cannot be negative"

def validate (intent : TradeIntent) : Except String Unit := do
  validateId "plan id" intent.planId 96
  validateId "source revision" intent.sourceRevision 96
  validateId "pair id" intent.pairId 96
  (intent.journalScope.map TradeJournalScope.validate).getD (.ok ())
  validateId "DEX operation id" intent.dexOperationId 120
  validateId "CEX client order id" intent.cexClientOrderId 36
  require (0 < intent.plannedTokenBBaseUnits) "planned token-B amount must be positive"
  intent.validateStep
  require (0 < intent.expectedCostTokenABaseUnits) "expected token-A cost must be positive"
  require (0 < intent.expectedProceedsTokenABaseUnits) "expected token-A proceeds must be positive"
  (intent.admission.map AdmissionRiskBounds.validate).getD (.ok ())
  (intent.dexPlan.map DexSwapPlan.validate).getD (.ok ())

end TradeIntent

/-! ## Results of the legs -/

inductive LegRole
  | dex
  | cex
  | recoveryCex
  deriving DecidableEq

inductive LegStatus
  | filled
  | failed
  | unknown
  deriving DecidableEq

/-- What one leg did.  The deltas of third assets and their prices are the entries of ordered maps,
in the order of the assets. -/
structure LegResult where
  status : LegStatus
  executedTokenBDeltaBaseUnits : Option Int
  tokenBDeltaBaseUnits : Int
  tokenADeltaBaseUnits : Int
  thirdAssetDeltas : List (String × Decimal)
  thirdAssetPricesTokenA : List (String × Decimal)
  gasCostTokenABaseUnits : Nat
  venueReference : String
  dexSettlementFee : Option AdaptiveFeeReceiptProof
  dexSettlementLog : Option ChainLog
  deriving DecidableEq

namespace LegResult

def validate (result : LegResult) : Except String Unit := do
  validateId "venue reference" result.venueReference 128
  require (result.status = .failed → result.tokenBDeltaBaseUnits = 0 ∧
      result.tokenADeltaBaseUnits = 0 ∧ result.thirdAssetDeltas = [])
    "a failed leg cannot claim venue balance changes"
  require (result.status = .failed →
      result.executedTokenBDeltaBaseUnits.all (· = 0) = true)
    "a failed leg cannot claim an executed quantity"
  require ((result.thirdAssetPricesTokenA.map Prod.fst).all
      (result.thirdAssetDeltas.map Prod.fst).contains = true)
    "third-asset valuation has no matching balance delta"
  require (result.dexSettlementFee = none ∧ result.dexSettlementLog = none ∨ result.status = .filled)
    "only a filled leg may carry a DEX settlement log"
  require (result.dexSettlementFee = none ∨ result.dexSettlementLog ≠ none)
    "DEX settlement Fee log has no matching Swap log"

/-- The result as the journal keeps it, without the receipt's events. -/
def stored (result : LegResult) : LegResult :=
  { result with dexSettlementFee := none, dexSettlementLog := none }

def recoveryFailureIsRetryable (result : LegResult) : Bool :=
  result.status = .failed && (result.venueReference = "cex:market-unsubmitted" ||
    result.venueReference = "cex:market-rejected" ||
    "cex:market-zero-fill:".toList.isPrefixOf result.venueReference.toList)

def dexFailureProvesZeroExposure (result : LegResult) : Bool :=
  result.status = .failed && (result.venueReference = "dex:unsubmitted" ||
    ":reverted".toList.isSuffixOf result.venueReference.toList)

end LegResult

/-! ## Operations -/

inductive TerminalOutcome
  | balancedProfit
  | balancedLoss
  deriving DecidableEq

structure ArbitrageResult where
  expectedProfitTokenABaseUnits : Int
  realizedProfitTokenABaseUnits : Int
  residualValueTokenABaseUnits : Int
  comparableProfitTokenABaseUnits : Int
  tokenBResidualBaseUnits : Int
  gasCostTokenABaseUnits : Nat
  recoveryLossTokenABaseUnits : Int
  outcome : TerminalOutcome
  deriving DecidableEq

inductive TradeStage
  | prepared
  | executing
  | recovering
  | balancedProfit
  | balancedLoss
  | unknownExposure
  | halted
  deriving DecidableEq

def TradeStage.terminal : TradeStage → Bool
  | balancedProfit | balancedLoss => true
  | _ => false

structure OperatorRecoveryEvidence where
  actor : String
  recoveredAtUnixMs : Nat
  dexTransactionHash : String
  binanceOrderId : Nat
  binanceClientOrderId : String
  deriving DecidableEq

def OperatorRecoveryEvidence.validate (evidence : OperatorRecoveryEvidence) : Except String Unit := do
  validateId "operator recovery actor" evidence.actor 96
  require (0 < evidence.recoveredAtUnixMs) "operator recovery timestamp is zero"
  require ("0x".toList.isPrefixOf evidence.dexTransactionHash.toList = true ∧
      evidence.dexTransactionHash.utf8ByteSize = 66 ∧
      (evidence.dexTransactionHash.toList.drop 2).all (fun c => (hexDigit c).isSome) = true)
    "operator recovery DEX transaction hash is invalid"
  require (0 < evidence.binanceOrderId) "operator recovery Binance order id is zero"
  validateId "operator recovery Binance client order id" evidence.binanceClientOrderId 36

structure TradeOperation where
  intent : TradeIntent
  stage : TradeStage
  dexDispatched : Bool
  cexDispatched : Bool
  cexExecutionLimitPrice : Option Decimal
  dexResult : Option LegResult
  cexResult : Option LegResult
  recoveryResults : List LegResult
  recoveryInflight : Bool
  recoveryTargetTokenBDeltaBaseUnits : Option Int
  recoveryRetryNotBeforeUnixMs : Option Nat
  result : Option ArbitrageResult
  blockingReason : Option String
  operatorRecovery : Option OperatorRecoveryEvidence
  deriving DecidableEq

def maxRecoveryAttempts : Nat := 3
def recoveryRetryBaseDelayMs : Nat := 250

variable (operation : TradeOperation)

namespace TradeOperation

def prepared (intent : TradeIntent) : TradeOperation where
  intent := intent
  stage := .prepared
  dexDispatched := false
  cexDispatched := false
  cexExecutionLimitPrice := none
  dexResult := none
  cexResult := none
  recoveryResults := []
  recoveryInflight := false
  recoveryTargetTokenBDeltaBaseUnits := none
  recoveryRetryNotBeforeUnixMs := none
  result := none
  blockingReason := none
  operatorRecovery := none

/-- The results of all legs: of the DEX, of the CEX and of the recoveries. -/
def legResults : List LegResult :=
  operation.dexResult.toList ++ operation.cexResult.toList ++ operation.recoveryResults

/-- A sum that stops at the ends of `i128` after every term. -/
def saturatingSum (values : List Int) : Int :=
  values.foldl (fun total value => saturateInt 128 (total + value)) 0

def tokenBResidualBaseUnits : Int :=
  saturatingSum (operation.legResults.map LegResult.tokenBDeltaBaseUnits)

/-- A quantity below one step counts as nothing. -/
def belowStep (amount : Int) : Bool :=
  0 < operation.intent.tokenBStepBaseUnits ∧
    amount.natAbs < operation.intent.tokenBStepBaseUnits.natAbs

def actionableTokenBResidualBaseUnits : Int :=
  if operation.belowStep operation.tokenBResidualBaseUnits then 0
  else operation.tokenBResidualBaseUnits

/-- What the CEX executed; old results have only the balance delta. -/
def executedDelta (cex : LegResult) : Int :=
  cex.executedTokenBDeltaBaseUnits.getD cex.tokenBDeltaBaseUnits

/-- The quantity that closes the gap between the primary legs. -/
def primaryRecoveryTargetTokenBDeltaBaseUnits : Option Int := do
  let dex ← operation.dexResult
  let cex ← operation.cexResult
  let primaryTarget := saturateInt 128 (-dex.tokenBDeltaBaseUnits)
  let target := saturateInt 128 (primaryTarget - executedDelta cex)
  return if operation.belowStep target then 0 else target

/-- The token A gained after gas, and the gas. -/
def realizedProfitTokenABaseUnits : Int × Nat :=
  let tokenA := saturatingSum (operation.legResults.map LegResult.tokenADeltaBaseUnits)
  let gas := (operation.legResults.map LegResult.gasCostTokenABaseUnits).foldl
    (fun total value => saturateNat 128 (total + value)) 0
  (saturateInt 128 (tokenA - min (gas : Int) i128Max), gas)

def hasUnknownLeg : Bool :=
  operation.legResults.any fun result => result.status = .unknown

end TradeOperation

def dexFirstRecoveryDirectionIsValid (direction : ArbitrageDirection)
    (targetTokenBDeltaBaseUnits : Int) : Bool :=
  match direction with
  | .buyTokenBOnDexSellOnCex => targetTokenBDeltaBaseUnits < 0
  | .buyTokenBOnCexSellOnDex => 0 < targetTokenBDeltaBaseUnits

/-- The id of the market order of a recovery attempt. -/
def recoveryClientOrderId (primary : String) (attempt : Nat) : Except String String := do
  require (0 < attempt ∧ attempt ≤ 9) "invalid Binance recovery attempt"
  require ("rustarb".toList.isPrefixOf primary.toList = true ∧
      primary.toList.all (fun c => c.toNat < 128) = true)
    "primary Binance client id is outside the Rust namespace"
  let suffix := "r" ++ toString attempt
  require (primary.utf8ByteSize + suffix.utf8ByteSize ≤ 36)
    "primary Binance client id leaves no recovery suffix space"
  return primary ++ suffix

/-- `clientOrderId` is the id of one of the attempts. -/
def isRecoveryClientOrderId (primary clientOrderId : String) : Bool :=
  (List.range' 1 maxRecoveryAttempts).any fun attempt =>
    (recoveryClientOrderId primary attempt).toOption = some clientOrderId

/-- The quotient of a mark, rounded up for a short residual. -/
def roundedMark (residual : Int) (numerator planned : Nat) : Except String Nat :=
  if residual < 0 ∧ numerator % planned ≠ 0 then
    orError (checkedAdd 256 (numerator / planned) 1) "residual liability rounding overflow"
  else .ok (numerator / planned)

/-- The residual marked pro rata at the admission's quote, rounded against the trade. -/
def residualValueTokenABaseUnits : Except String Int :=
  let residual := operation.tokenBResidualBaseUnits
  if residual = 0 then .ok 0
  else
    match operation.intent.admission with
    | none => .ok 0
    | some admission => do
      let planned := operation.intent.plannedTokenBBaseUnits.natAbs
      require (0 < planned) "residual mark has zero planned token-B amount"
      let quote := admission.recoveryQuoteForResidual residual
      require (0 < quote) "residual mark has zero recovery quote"
      let numerator ← orError (checkedMul 256 residual.natAbs quote)
        "residual mark numerator overflow"
      let magnitude ← roundedMark residual numerator planned
      let magnitude ← orError (checkedNat 128 magnitude) "residual mark exceeds u128"
      let magnitude ← orError (checkedInt 128 magnitude) "residual mark exceeds i128"
      return if 0 < residual then magnitude else -magnitude

/-- The checks before a trade is closed. -/
def checkFinalizable : Except String Unit := do
  require (operation.hasUnknownLeg = false)
    "trade with an unknown venue outcome cannot be finalized as balanced"
  require (operation.dexDispatched = false ∨ operation.dexResult.isSome = true)
    "trade with a dispatched DEX leg has no terminal result"
  require (operation.cexDispatched = false ∨ operation.cexResult.isSome = true)
    "trade with a dispatched CEX leg has no terminal result"
  require (operation.recoveryInflight = false)
    "trade with an inflight recovery cannot be finalized as balanced"
  require (operation.dexResult.all
      (fun dex => dex.status ≠ .failed || dex.dexFailureProvesZeroExposure) = true)
    "failed DEX leg does not prove a terminal zero-exposure outcome"

def finalizeBalanced : Except String TradeOperation := do
  checkFinalizable operation
  let (realizedProfit, gas) := operation.realizedProfitTokenABaseUnits
  let recoveryTokenA := TradeOperation.saturatingSum
    (operation.recoveryResults.map LegResult.tokenADeltaBaseUnits)
  let residualValue ← residualValueTokenABaseUnits operation
  let comparableProfit ← orError (checkedInt 128 (realizedProfit + residualValue))
    "comparable realized profit overflow"
  let profitable : Bool := 0 ≤ comparableProfit
  return { operation with
    stage := if profitable then .balancedProfit else .balancedLoss
    result := some {
      expectedProfitTokenABaseUnits := operation.intent.expectedProfitTokenABaseUnits
      realizedProfitTokenABaseUnits := realizedProfit
      residualValueTokenABaseUnits := residualValue
      comparableProfitTokenABaseUnits := comparableProfit
      tokenBResidualBaseUnits := operation.tokenBResidualBaseUnits
      gasCostTokenABaseUnits := gas
      recoveryLossTokenABaseUnits := saturateInt 128 (-min recoveryTokenA 0)
      outcome := if profitable then .balancedProfit else .balancedLoss } }

/-! ## The checks on a journaled state -/

/-- A backoff deadline stands only after an attempt that may be repeated. -/
def retryDeadlineFits : Bool :=
  operation.recoveryRetryNotBeforeUnixMs.isNone ||
    (operation.stage = .recovering && !operation.recoveryInflight && operation.result.isNone &&
      decide (operation.recoveryResults.length < maxRecoveryAttempts) &&
      operation.recoveryResults.getLast?.any LegResult.recoveryFailureIsRetryable)

def validateOperatorRecovery (evidence : OperatorRecoveryEvidence) :
    Except String Unit := do
  evidence.validate
  let dex ← orError operation.dexResult "operator recovery has no DEX result"
  let recovery ← orError operation.recoveryResults.head? "operator recovery has no Binance result"
  require (operation.stage.terminal = true ∧ operation.result.isSome = true ∧
      operation.recoveryResults.length = 1 ∧ operation.tokenBResidualBaseUnits = 0)
    "operator recovery is not terminal and balanced"
  require (dex.status = .filled ∧ dex.venueReference = "dex:" ++ evidence.dexTransactionHash)
    "operator recovery DEX evidence mismatch"
  require (recovery.status = .filled ∧
      recovery.venueReference = "cex:" ++ toString evidence.binanceOrderId ∧
      recovery.tokenBDeltaBaseUnits = saturateInt 128 (-dex.tokenBDeltaBaseUnits))
    "operator recovery Binance evidence mismatch"
  require (isRecoveryClientOrderId operation.intent.cexClientOrderId
      evidence.binanceClientOrderId = true)
    "operator recovery client id is not deterministic"

def validateOperation : Except String Unit := do
  operation.intent.validate
  require (operation.recoveryResults.length ≤ maxRecoveryAttempts) "too many recovery attempts"
  require (retryDeadlineFits operation = true)
    "recovery retry deadline does not match a retryable terminal attempt"
  operation.legResults.forM LegResult.validate
  require (operation.result.isNone ≠ operation.stage.terminal)
    "terminal result and stage disagree"
  (operation.blockingReason.map (validateId "blocking reason" · 256)).getD (.ok ())
  (operation.operatorRecovery.map (validateOperatorRecovery operation)).getD (.ok ())

end PolyBot.Trade
