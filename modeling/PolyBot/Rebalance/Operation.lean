import PolyBot.Lib.Keccak
import PolyBot.Rebalance.Planner

/-!
# Rebalance operations

A rebalance is carried out in steps that each move funds or wait for them.  Its progress is the last
step on record, with the evidence that the step needs when it is resumed.

The route and the direction fix which progress may follow which (`stepAllowed`).  A quarantined
operation is held for review; only approved reasons let it go on (`approvedQuarantineRetry`), and
some failures may be retried (`approvedTerminalRetry`).

The fee of an intent is a number here; its text is the number's and is read back as written.

* `validateTransition`: the check of one step, `validateProgressEvidence`: that of its evidence.
* `validateTransition_active`: what may follow a progress that is not terminal.
* `validateTransition_replay`: a step that is accepted live is accepted when it is read back.
-/

namespace PolyBot.Rebalance

inductive RebalanceExecutionAuthority
  | worldChainV12
  | arbitrumFullLive
  | lineaFullLive
  deriving DecidableEq

def RebalanceExecutionAuthority.strategyId : RebalanceExecutionAuthority → String
  | .worldChainV12 => "rebalance-world-chain-v12"
  | .arbitrumFullLive => "rebalance-arbitrum-usdc-esp"
  | .lineaFullLive => "rebalance-linea-usdt-usdc"

structure RebalanceExecutionRequest where
  authority : RebalanceExecutionAuthority
  tokenSymbol : String
  tokenDecimals : Nat
  tokenContract : Address
  walletOwner : Address
  action : RebalanceAction
  binanceBalanceBefore : Nat
  walletBalanceBefore : Nat
  revalidationStartBalance : Nat
  maximumFee : Option Nat
  approvalSessionId : Option String
  deriving DecidableEq

structure RebalanceJournalScope where
  schemaVersion : Nat
  accountId : String
  networkId : String
  strategyId : String
  deriving DecidableEq

structure RebalanceExecutionIntent where
  scope : Option RebalanceJournalScope
  operationId : String
  fingerprint : String
  withdrawOrderId : String
  tokenSymbol : String
  tokenDecimals : Nat
  tokenContract : Address
  walletOwner : Address
  direction : Direction
  route : Route
  amount : Nat
  binanceBalanceBefore : Nat
  walletBalanceBefore : Nat
  revalidationStartBalance : Nat
  maximumFeeBaseUnits : Option Nat
  approvalSessionId : Option String
  deriving DecidableEq

/-- The balances on which a withdrawal was found to be no longer needed. -/
structure Revalidation where
  binanceBalance : Nat
  walletBalance : Nat
  requiredWithdrawal : Nat
  deriving DecidableEq

inductive RebalanceExecutionProgress
  | intentRecorded
  | binanceTransferSubmitted (transactionId bridgeBalanceBefore : Nat)
  | binanceTransferCompleted (transactionId bridgeBalanceBefore : Nat)
  | binanceWithdrawalSubmissionStarted (apiMode : String)
      (bridgeBalanceBefore reconciliationQueries : Nat)
  | binanceWithdrawalRetryAuthorized (apiMode : String) (bridgeBalanceBefore masterFreeBaseUnits
      masterLockedBaseUnits walletBalanceBaseUnits : Nat)
  | binanceMasterReturnSubmissionStarted (clientTransactionId : String)
      (revalidation : Revalidation) (reconciliationQueries : Nat)
  | binanceMasterReturnSubmitted (clientTransactionId : String) (transactionId : Nat)
      (revalidation : Revalidation)
  | binanceWithdrawalSubmitted (submissionReference : String) (bridgeBalanceBefore : Nat)
  | fundsOnBridge (withdrawalId transactionId : String) (receivedBaseUnits : Nat)
  | approvalMined (chainId : Nat) (transactionHash : B256) (inputAmount : Nat)
  | bridgePrepared (originChainId inputAmount : Nat) (target : Address) (calldata : List UInt8)
      (calldataHash : B256) (minimumOutputAmount destinationBalanceBefore : Nat)
  | bridgeMined (originChainId : Nat) (transactionHash : B256)
      (minimumOutputAmount destinationBalanceBefore : Nat)
  | acrossFilled (fillTransactionHash : B256) (receivedBaseUnits : Nat)
  | depositTransferMined (chainId : Nat) (transactionHash : B256)
  | depositQuestionnaireSubmissionStarted (chainId : Nat) (transactionHash : B256)
      (depositId : String)
  | binanceCredited (depositId : String) (creditedBaseUnits : Nat)
  | completed (binanceBalanceAfter walletBalanceAfter : Nat)
  | cancelledStale (masterReturnTransactionId : Nat) (revalidation : Revalidation)
  | failed (reason : String)
  | quarantined (reason : String)
  deriving DecidableEq

namespace RebalanceExecutionProgress

def terminal : RebalanceExecutionProgress → Bool
  | completed .. | cancelledStale .. | failed .. | quarantined .. => true
  | _ => false

def isQuarantined : RebalanceExecutionProgress → Bool
  | quarantined _ => true
  | _ => false

def isFailed : RebalanceExecutionProgress → Bool
  | failed _ => true
  | _ => false

end RebalanceExecutionProgress

structure RebalanceExecutionOperation where
  intent : RebalanceExecutionIntent
  progress : RebalanceExecutionProgress
  deriving DecidableEq

def RebalanceExecutionOperation.operationId (operation : RebalanceExecutionOperation) : String :=
  operation.intent.operationId

/-! ## Texts -/

def startsWith (text start : String) : Bool :=
  start.toList.isPrefixOf text.toList

/-- The first characters of a text. -/
def leading (count : Nat) (text : String) : String :=
  String.ofList (text.toList.take count)

def containsText (text part : String) : Bool :=
  text.toList.tails.any fun rest => part.toList.isPrefixOf rest

def toAsciiLowercase (text : String) : String :=
  String.ofList (text.toList.map Char.toLower)

def isAsciiHexDigit (c : Char) : Bool :=
  c.isDigit || ('a' ≤ c && c ≤ 'f') || ('A' ≤ c && c ≤ 'F')

def isTokenSymbol (text : String) : Bool :=
  text ≠ "" && text.utf8ByteSize ≤ 16 && text.toList.all fun c => c.isUpper || c.isDigit

/-! ## Requests and operations -/

/-- The routes that an authority owns. -/
def authorityMatchesRoute : RebalanceExecutionAuthority → Route → Bool
  | .worldChainV12, .direct _ chainId => chainId = 480
  | .worldChainV12, .across _ _ walletChainId => walletChainId = 480
  | .arbitrumFullLive, .direct binanceNetwork chainId =>
    chainId = 42161 && binanceNetwork = "ARBITRUM"
  | .lineaFullLive, .across binanceNetwork bridgeChainId walletChainId =>
    bridgeChainId = 10 && walletChainId = 59144 && binanceNetwork = "OPTIMISM"
  | _, _ => false

def RebalanceExecutionAuthority.isProduction : RebalanceExecutionAuthority → Bool
  | .worldChainV12 => false
  | .arbitrumFullLive | .lineaFullLive => true

/-- The amount is covered by the balance it is taken from. -/
def coveredBy (direction : Direction) (amount binance wallet : Nat) (binanceError walletError : String) :
    Except String Unit :=
  match direction with
  | .binanceToWallet => require (amount ≤ binance) binanceError
  | .walletToBinance => require (amount ≤ wallet) walletError

/-- Twice the start balance is within the inventory. -/
def thresholdCovered (startBalance binance wallet : Nat)
    (totalError requiredError belowError : String) : Except String Unit := do
  let total ← orError (checkedAdd 256 binance wallet) totalError
  let requiredTotal ← orError (checkedMul 256 startBalance 2) requiredError
  require (requiredTotal ≤ total) belowError

def validateRequest (request : RebalanceExecutionRequest) : Except String Unit := do
  require (isTokenSymbol request.tokenSymbol = true) "rebalance executor token symbol is invalid"
  require (request.tokenDecimals ≤ 36) "rebalance executor token decimals are invalid"
  require (request.tokenContract ≠ 0) "rebalance executor token contract is zero"
  require (request.walletOwner ≠ 0) "rebalance executor wallet owner is zero"
  require (request.action.amount ≠ 0) "rebalance executor amount is zero"
  require (request.revalidationStartBalance ≠ 0)
    "rebalance executor revalidation start balance is zero"
  require (authorityMatchesRoute request.authority request.action.route = true)
    "rebalance execution authority does not own the selected route"
  require (request.authority.isProduction =
      (request.maximumFee.isSome && request.approvalSessionId.isSome))
    "only production rebalance requests carry fee and approval-session authority"
  require (request.authority.isProduction = true ∨
      request.maximumFee = none ∧ request.approvalSessionId = none)
    "non-production rebalance request carries direct production authority"
  require (∀ maximumFee ∈ request.maximumFee,
      request.action.direction = .walletToBinance ∨ maximumFee ≠ 0)
    "rebalance Binance withdrawal maximum fee is zero"
  coveredBy request.action.direction request.action.amount request.binanceBalanceBefore
    request.walletBalanceBefore "rebalance executor amount exceeds Binance balance"
    "rebalance executor amount exceeds wallet balance"
  thresholdCovered request.revalidationStartBalance request.binanceBalanceBefore
    request.walletBalanceBefore "rebalance executor request balance overflow"
    "rebalance executor revalidation threshold overflow"
    "rebalance executor revalidation threshold exceeds total inventory"

/-- The reason of a failure or a quarantine. -/
def RebalanceExecutionProgress.reason? : RebalanceExecutionProgress → Option String
  | failed reason | quarantined reason => some reason
  | _ => none

def isApprovalSessionId (text : String) : Bool :=
  8 ≤ text.utf8ByteSize && text.utf8ByteSize ≤ 64 && hasOnly ['-', '_', ':'] text

variable (intent : RebalanceExecutionIntent)

/-- The checks on the fee authority of an intent. -/
def validateFeeAuthority : Except String Unit :=
  match intent.maximumFeeBaseUnits with
  | some maximumFee => do
    require (intent.direction = .walletToBinance ∨ maximumFee ≠ 0)
      "rebalance canary Binance withdrawal maximum fee is zero"
    require (intent.scope.any (fun scope =>
        scope.networkId = "chain:42161" || scope.networkId = "chain:59144") = true)
      "direct rebalance fee authority has the wrong journal scope"
    require (∀ sessionId ∈ intent.approvalSessionId, isApprovalSessionId sessionId = true)
      "rebalance approval session id is invalid"
  | none =>
    require (intent.approvalSessionId = none)
      "rebalance intent has an approval session without canary fee authority"

def validateOperation (operation : RebalanceExecutionOperation) : Except String Unit := do
  let intent := operation.intent
  require (intent.operationId ≠ "" ∧ intent.operationId.utf8ByteSize ≤ 96)
    "rebalance operation id is invalid"
  require (intent.fingerprint.utf8ByteSize = 64 ∧
      intent.fingerprint.toList.all isAsciiHexDigit = true)
    "rebalance operation fingerprint is invalid"
  require (8 ≤ intent.withdrawOrderId.utf8ByteSize ∧ intent.withdrawOrderId.utf8ByteSize ≤ 64 ∧
      hasOnly [] intent.withdrawOrderId = true)
    "rebalance withdrawal client id is invalid"
  require (intent.amount ≠ 0) "rebalance operation amount is zero"
  require (isTokenSymbol intent.tokenSymbol = true) "rebalance operation token symbol is invalid"
  require (intent.tokenDecimals ≤ 36) "rebalance operation token decimals are invalid"
  require (intent.tokenContract ≠ 0 ∧ intent.walletOwner ≠ 0)
    "rebalance operation token contract or wallet is zero"
  coveredBy intent.direction intent.amount intent.binanceBalanceBefore intent.walletBalanceBefore
    "rebalance operation amount exceeds Binance balance"
    "rebalance operation amount exceeds wallet balance"
  if intent.revalidationStartBalance ≠ 0 then
    thresholdCovered intent.revalidationStartBalance intent.binanceBalanceBefore
      intent.walletBalanceBefore "rebalance operation balance overflow"
      "rebalance operation revalidation threshold overflow"
      "rebalance operation revalidation threshold exceeds total inventory"
  require (∀ reason ∈ operation.progress.reason?, reason ≠ "" ∧ reason.utf8ByteSize ≤ 1024)
    "rebalance failure reason is invalid"
  validateFeeAuthority intent

/-! ## Quarantines and failures that may go on -/

def ownershipGuardQuarantine (reason : String) : Bool :=
  reason = "Binance Travel Rule ownership verification is not unique for the exact wallet and network" ||
  reason = "Binance Travel Rule ownership verification is absent for the exact wallet, network, and token" ||
  reason = "Binance Travel Rule ownership verification is absent for the exact wallet and network"

def signatureEncodingQuarantine (reason : String) : Bool :=
  reason = "Binance Travel Rule withdrawal submission failed with HTTP 400 Bad Request, code -1022: Signature for this request is not valid."

def retryableTravelRuleOwnershipFailure (reason : String) : Bool :=
  reason = "terminal Binance Travel Rule withdrawal rejection: Binance Travel Rule withdrawal submission failed with HTTP 400 Bad Request, code -4024: [031031] User does not own this currency."

/-- `TRAVEL_RULE_BINANCE_WITHDRAWAL_API_MODE`. -/
def travelRuleApiMode : String :=
  "travel_rule_ae_self_owned"

def retryableTravelRuleOwnershipReopen (previous next : RebalanceExecutionProgress) : Bool :=
  match previous, next with
  | .failed reason, .binanceWithdrawalSubmissionStarted apiMode _ reconciliationQueries =>
    reconciliationQueries = 0 && retryableTravelRuleOwnershipFailure reason &&
      apiMode = travelRuleApiMode
  | _, _ => false

def unindexedMasterTransferQuarantine (reason : String) : Bool :=
  reason = "unindexed Binance master-transfer retry found staged master inventory"

def retryableUnindexedMasterTransferReopen (previous next : RebalanceExecutionProgress) : Bool :=
  match previous, next with
  | .quarantined reason, .intentRecorded => unindexedMasterTransferQuarantine reason
  | _, _ => false

def destinationBalanceChangeReason : String :=
  "unindexed Binance withdrawal retry found a destination-wallet balance change"

def noIndexedTransferReason : String :=
  "rebalance intent has no indexed Binance master transfer; operator review required"

def correctedGuardQuarantine (reason : String) : Bool :=
  reason = destinationBalanceChangeReason || reason = noIndexedTransferReason ||
    unindexedMasterTransferQuarantine reason || ownershipGuardQuarantine reason ||
    signatureEncodingQuarantine reason

def retryablePremutationCapitalPreflightQuarantine (reason : String)
    (progressBeforeQuarantine : RebalanceExecutionProgress) : Bool :=
  progressBeforeQuarantine = .intentRecorded &&
    (startsWith (toAsciiLowercase reason) "binance capital configuration request failed:" ||
      reason = "decimal exceeds token precision")

/-- The errors of a balance read that names a block the node does not have yet. -/
def missingBlockReason (reason : String) : Bool :=
  reason = "JSON-RPC error -32000: header not found" ||
  reason = "JSON-RPC error -32000: requested block ahead of current block and the hash is not currently canonical"

def RebalanceExecutionProgress.isCredited : RebalanceExecutionProgress → Bool
  | binanceCredited .. => true
  | _ => false

def retryablePostCreditSettlementQuarantine (reason : String)
    (progressBeforeQuarantine : RebalanceExecutionProgress) : Bool :=
  progressBeforeQuarantine.isCredited && missingBlockReason reason

def correctedAcrossDepositChainQuarantine (reason : String)
    (progressBeforeQuarantine : RebalanceExecutionProgress) : Bool :=
  match intent.route, intent.direction, progressBeforeQuarantine with
  | .across _ bridgeChainId walletChainId, .walletToBinance, .depositTransferMined chainId _ =>
    reason = "illegal rebalance executor state transition" && bridgeChainId ≠ walletChainId &&
      chainId = bridgeChainId
  | _, _, _ => false

def acrossFillTimeoutQuarantine (reason : String) : Bool :=
  reason = "timed out waiting for Across fill"

def consumedNonceDepositQuarantine (reason : String) : Bool :=
  let reason := toAsciiLowercase reason
  containsText reason "nonce too low" ||
    startsWith reason "consumed-nonce deposit recovery attempt failed:" ||
    startsWith reason "binance capital configuration request failed:"

def reconciledDirectDepositTransition (previous next : RebalanceExecutionProgress) : Bool :=
  match intent.route, intent.direction, previous, next with
  | .direct binanceNetwork chainId, .walletToBinance, .quarantined reason,
      .depositTransferMined minedChainId transactionHash =>
    (chainId = 42161 && binanceNetwork = "ARBITRUM" ||
        chainId = 59144 && binanceNetwork = "LINEA") &&
      chainId = minedChainId && startsWith reason "DEX outcome unknown:" && transactionHash ≠ 0
  | _, _, _, _ => false

def reconciledAcrossFillTransition (previous next : RebalanceExecutionProgress) : Bool :=
  match intent.route, previous, next with
  | .across .., .quarantined reason, .acrossFilled fillTransactionHash receivedBaseUnits =>
    acrossFillTimeoutQuarantine reason && fillTransactionHash ≠ 0 && receivedBaseUnits ≠ 0
  | _, _, _ => false

def reconciledConsumedNonceDepositTransition (previous next : RebalanceExecutionProgress) : Bool :=
  match intent.route, intent.direction, previous, next with
  | .across _ bridgeChainId _, .walletToBinance, .quarantined reason,
      .acrossFilled fillTransactionHash receivedBaseUnits =>
    bridgeChainId = 10 && consumedNonceDepositQuarantine reason && fillTransactionHash ≠ 0 &&
      receivedBaseUnits ≠ 0
  | _, _, _, _ => false

/-! ## Transitions -/

inductive TransitionOrigin
  | journalReplay
  | liveAppend
  deriving DecidableEq

def approvedTerminalRetry (origin : TransitionOrigin)
    (previous next : RebalanceExecutionProgress) : Bool :=
  match previous, next with
  | .failed reason, .binanceWithdrawalSubmissionStarted apiMode _ _ =>
    (containsText reason "approved deterministic Travel Rule rejection" &&
        (apiMode = "standard" || origin = .journalReplay &&
          (apiMode = "local_entity" || apiMode = "travel_rule"))) ||
      (reason = "terminal Binance local-entity withdrawal rejection: Binance local-entity withdrawal submission failed with HTTP 400 Bad Request, code -4024: [031031] User does not own this currency." &&
        apiMode = "standard") ||
      (retryableTravelRuleOwnershipFailure reason && apiMode = travelRuleApiMode)
  | _, _ => false

def approvedTerminalManualCompletion (previous next : RebalanceExecutionProgress) : Bool :=
  match previous, next with
  | .failed reason, .completed .. =>
    reason = "terminal Binance standard withdrawal rejection after approved local-entity endpoint correction: Binance standard withdrawal submission failed with HTTP 400 Bad Request, code -4104: Please note that withdrawals are not permitted due to travel rule restrictions. To facilitate the withdrawal process, please refer to Travel Rule documentation."
  | _, _ => false

/-- What a quarantine may go on to by its reason alone. -/
def approvedByReason (reason : String) (next : RebalanceExecutionProgress) : Bool :=
  match next with
  | .binanceWithdrawalSubmissionStarted apiMode _ reconciliationQueries =>
    (reason = destinationBalanceChangeReason && apiMode = "travel_rule_ae_self_owned" &&
        reconciliationQueries = 1) ||
      (ownershipGuardQuarantine reason &&
        (apiMode = "travel_rule_required_after_standard_-4104" ||
          apiMode = "travel_rule_ae_self_owned") && reconciliationQueries = 0) ||
      (signatureEncodingQuarantine reason && apiMode = "travel_rule_ae_self_owned" &&
        reconciliationQueries = 0)
  | .binanceWithdrawalRetryAuthorized apiMode .. =>
    ownershipGuardQuarantine reason && apiMode = "travel_rule_ae_self_owned"
  | .intentRecorded =>
    reason = noIndexedTransferReason || unindexedMasterTransferQuarantine reason ||
      retryablePremutationCapitalPreflightQuarantine reason next
  | .binanceCredited .. => missingBlockReason reason
  | _ => false

def approvedQuarantineRetry (previous next : RebalanceExecutionProgress) : Bool :=
  match previous with
  | .quarantined reason =>
    approvedByReason reason next || reconciledDirectDepositTransition intent previous next ||
      reconciledAcrossFillTransition intent previous next ||
      reconciledConsumedNonceDepositTransition intent previous next ||
      correctedAcrossDepositChainQuarantine intent reason next
  | _ => false

def Route.isDirect : Route → Bool
  | direct .. => true
  | across .. => false

/-- The steps of a withdrawal that take it back to its submission or return it to Binance. -/
def withdrawalStepAllowed (previous next : RebalanceExecutionProgress) : Bool :=
  match previous, next with
  | .binanceWithdrawalSubmissionStarted previousMode _ previousQueries,
      .binanceWithdrawalSubmissionStarted nextMode _ nextQueries =>
    (previousMode = nextMode && previousQueries = 0 && nextQueries = 1) ||
      (previousMode = "standard" && nextMode = "travel_rule_required_after_standard_-4104" &&
        previousQueries = 0 && nextQueries = 0) ||
      (previousMode = "travel_rule_required_after_standard_-4104" &&
        nextMode = "travel_rule_ae_self_owned" && previousQueries = 0 && nextQueries = 0)
  | .binanceWithdrawalSubmissionStarted previousMode _ previousQueries,
      .binanceWithdrawalRetryAuthorized nextMode .. =>
    previousQueries = 1 && previousMode = nextMode
  | .binanceWithdrawalRetryAuthorized previousMode ..,
      .binanceWithdrawalSubmissionStarted nextMode _ nextQueries =>
    nextQueries = 0 && previousMode = nextMode
  | .binanceWithdrawalSubmissionStarted _ _ previousQueries,
      .binanceMasterReturnSubmissionStarted _ _ nextQueries =>
    previousQueries = 1 && nextQueries = 0
  | .binanceWithdrawalRetryAuthorized .., .binanceMasterReturnSubmissionStarted _ _ nextQueries =>
    nextQueries = 0
  | .binanceMasterReturnSubmissionStarted previousId previousBalances previousQueries,
      .binanceMasterReturnSubmissionStarted nextId nextBalances nextQueries =>
    previousQueries = 0 && nextQueries = 1 && previousId = nextId &&
      previousBalances = nextBalances
  | .binanceMasterReturnSubmissionStarted previousId previousBalances previousQueries,
      .binanceMasterReturnSubmitted nextId _ nextBalances =>
    previousQueries = 1 && previousId = nextId && previousBalances = nextBalances
  | .binanceMasterReturnSubmitted _ transactionId previousBalances,
      .cancelledStale masterReturnTransactionId nextBalances =>
    transactionId = masterReturnTransactionId && previousBalances = nextBalances
  | _, _ => false

/-- The steps of a route and a direction.  Where both routes have a step it stands here once. -/
def stepAllowed (origin : TransitionOrigin) (intent : RebalanceExecutionIntent)
    (previous next : RebalanceExecutionProgress) : Bool :=
  let direct := intent.route.isDirect
  let toWallet : Bool := intent.direction = .binanceToWallet
  match previous with
  | .intentRecorded =>
    match next with
    | .binanceTransferSubmitted .. => toWallet
    | .depositTransferMined .. => direct && !toWallet
    | .approvalMined .. | .bridgePrepared .. => !direct && !toWallet
    | _ => false
  | .binanceTransferSubmitted .. =>
    match next with
    | .binanceTransferCompleted .. => toWallet
    | _ => false
  | .binanceTransferCompleted .. =>
    match next with
    -- journals from before the submission had a state of its own went straight to submitted
    | .binanceWithdrawalSubmissionStarted .. | .binanceWithdrawalSubmitted .. => toWallet
    | _ => false
  | .binanceWithdrawalSubmissionStarted .. =>
    match next with
    | .binanceWithdrawalSubmitted .. => toWallet
    | .completed .. => direct && toWallet
    | _ => toWallet && withdrawalStepAllowed previous next
  | .binanceWithdrawalRetryAuthorized .. | .binanceMasterReturnSubmissionStarted ..
  | .binanceMasterReturnSubmitted .. => toWallet && withdrawalStepAllowed previous next
  | .binanceWithdrawalSubmitted .. =>
    match next with
    | .completed .. => direct && toWallet
    | .fundsOnBridge .. => !direct && toWallet
    | _ => false
  | .fundsOnBridge .. =>
    match next with
    | .approvalMined .. | .bridgePrepared .. => !direct && toWallet
    | _ => false
  | .approvalMined .. =>
    match next with
    | .bridgePrepared .. => !direct
    | _ => false
  | .bridgePrepared .. =>
    match next with
    | .bridgeMined .. | .bridgePrepared .. => !direct
    | _ => false
  | .bridgeMined .. =>
    match next with
    | .acrossFilled .. => !direct
    | _ => false
  | .acrossFilled .. =>
    match next with
    | .completed .. => !direct && toWallet
    | .depositTransferMined .. => !direct && !toWallet
    | _ => false
  | .depositTransferMined chainId transactionHash =>
    match next with
    | .binanceCredited .. => !toWallet
    | .depositQuestionnaireSubmissionStarted nextChainId nextTransactionHash _ =>
      !toWallet && chainId = nextChainId && transactionHash = nextTransactionHash
    | _ => false
  | .depositQuestionnaireSubmissionStarted _ _ depositId =>
    match next with
    | .binanceCredited creditedDepositId _ => !toWallet && depositId = creditedDepositId
    | _ => false
  | .binanceCredited .. =>
    match next with
    | .completed .. => !toWallet
    | _ => false
  | .failed .. =>
    match next with
    | .binanceWithdrawalSubmissionStarted .. =>
      direct && toWallet && approvedTerminalRetry origin previous next
    | .completed .. => direct && toWallet && approvedTerminalManualCompletion previous next
    | _ => false
  | .completed .. | .cancelledStale .. | .quarantined .. => false

/-- `stale_master_return_client_id`: the key of the transfer back to the subaccount. -/
def staleMasterReturnClientId : String :=
  "rc" ++ leading 30 intent.fingerprint

def validateMasterReturnEvidence (clientTransactionId : String) (revalidation : Revalidation) :
    Except String Unit := do
  require (intent.direction = .binanceToWallet)
    "rebalance master-return evidence belongs to the wrong direction"
  require (clientTransactionId = staleMasterReturnClientId intent)
    "rebalance master-return client id is not deterministic"
  require (revalidation.requiredWithdrawal < intent.amount ∨
      intent.revalidationStartBalance ≠ 0 ∧
        intent.revalidationStartBalance ≤ revalidation.walletBalance)
    "rebalance stale cancellation is still required by current balances"
  let total ← orError (checkedAdd 256 revalidation.binanceBalance revalidation.walletBalance)
    "rebalance stale-cancellation balance overflow"
  require (total ≠ 0) "rebalance stale-cancellation balances are zero"

def validateHashText (value : String) : Except String Unit :=
  require (value.utf8ByteSize = 66 ∧ startsWith value "0x" = true ∧
      (value.toList.drop 2).all isAsciiHexDigit = true)
    "rebalance transaction hash is invalid"

def validateProgressEvidence :
    RebalanceExecutionProgress → Except String Unit
  | .binanceTransferSubmitted transactionId _ | .binanceTransferCompleted transactionId _ =>
    require (0 < transactionId) "rebalance Binance transfer id is zero"
  | .binanceWithdrawalSubmissionStarted apiMode _ reconciliationQueries => do
    require (["local_entity", "standard", "travel_rule",
        "travel_rule_required_after_standard_-4104", "travel_rule_ae_self_owned"].contains apiMode =
          true)
      "rebalance Binance withdrawal submission API mode is invalid"
    require (reconciliationQueries ≤ 1)
      "rebalance Binance withdrawal reconciliation query limit exceeded"
  | .binanceWithdrawalRetryAuthorized apiMode _ masterFreeBaseUnits masterLockedBaseUnits _ => do
    require (["standard", "travel_rule_ae_self_owned"].contains apiMode = true)
      "rebalance Binance withdrawal retry API mode is invalid"
    require (intent.amount ≤ masterFreeBaseUnits)
      "rebalance Binance withdrawal retry did not preserve sufficient master inventory"
    require (masterLockedBaseUnits = 0)
      "rebalance Binance withdrawal retry retained locked master inventory"
  | .binanceMasterReturnSubmissionStarted clientTransactionId revalidation
      reconciliationQueries => do
    validateMasterReturnEvidence intent clientTransactionId revalidation
    require (reconciliationQueries ≤ 1)
      "rebalance master-return reconciliation query limit exceeded"
  | .binanceMasterReturnSubmitted clientTransactionId transactionId revalidation => do
    validateMasterReturnEvidence intent clientTransactionId revalidation
    require (0 < transactionId) "rebalance master-return id is zero"
  | .binanceWithdrawalSubmitted submissionReference _ =>
    require (submissionReference ≠ "" ∧ submissionReference.utf8ByteSize ≤ 128)
      "rebalance Binance withdrawal submission reference is invalid"
  | .fundsOnBridge withdrawalId transactionId receivedBaseUnits => do
    require (withdrawalId ≠ "") "rebalance withdrawal id is empty"
    validateHashText transactionId
    require (receivedBaseUnits ≠ 0 ∧ receivedBaseUnits ≤ intent.amount)
      "rebalance bridge receipt amount is invalid"
  | .approvalMined chainId _ inputAmount => do
    require (0 < chainId) "rebalance transaction chain id is zero"
    require (inputAmount ≤ intent.amount) "rebalance approval input exceeds the operation amount"
  | .depositTransferMined chainId _ =>
    require (0 < chainId) "rebalance transaction chain id is zero"
  | .depositQuestionnaireSubmissionStarted chainId _ depositId => do
    require (0 < chainId) "rebalance transaction chain id is zero"
    require (depositId ≠ "" ∧ depositId.utf8ByteSize ≤ 128)
      "rebalance deposit questionnaire id is invalid"
  | .bridgeMined originChainId _ minimumOutputAmount _ => do
    require (0 < originChainId) "rebalance bridge origin chain is zero"
    require (minimumOutputAmount ≠ 0) "rebalance bridge minimum output is zero"
  | .bridgePrepared originChainId inputAmount target calldata calldataHash minimumOutputAmount _ => do
    require (0 < originChainId) "rebalance bridge origin chain is zero"
    require (inputAmount ≠ 0) "rebalance bridge input is zero"
    require (target ≠ 0) "rebalance bridge target is zero"
    require (calldata ≠ []) "rebalance bridge calldata is empty"
    require (Keccak.keccak256 calldata = calldataHash)
      "rebalance bridge calldata hash does not match"
    require (minimumOutputAmount ≠ 0 ∧ minimumOutputAmount ≤ inputAmount)
      "rebalance bridge minimum output is invalid"
  | .acrossFilled _ receivedBaseUnits =>
    require (receivedBaseUnits ≠ 0) "rebalance Across receipt is zero"
  | .binanceCredited depositId creditedBaseUnits => do
    require (depositId ≠ "") "rebalance Binance deposit id is empty"
    require (creditedBaseUnits ≠ 0) "rebalance Binance credit is zero"
  | .completed binanceBalanceAfter walletBalanceAfter => do
    let total ← orError (checkedAdd 256 binanceBalanceAfter walletBalanceAfter)
      "rebalance completed balance overflow"
    require (total ≠ 0) "rebalance completed balances are zero"
  | .cancelledStale masterReturnTransactionId revalidation => do
    validateMasterReturnEvidence intent (staleMasterReturnClientId intent) revalidation
    require (0 < masterReturnTransactionId) "rebalance cancelled-stale master-return id is zero"
  | .intentRecorded | .failed _ | .quarantined _ => .ok ()

def validateTransition (previous next : RebalanceExecutionProgress) (origin : TransitionOrigin) :
    Except String Unit := do
  require (previous.terminal = false ∨ approvedTerminalRetry origin previous next = true ∨
      approvedTerminalManualCompletion previous next = true ∨
      approvedQuarantineRetry intent previous next = true)
    "rebalance operation is already terminal"
  if approvedQuarantineRetry intent previous next = true then
    validateProgressEvidence intent next
  else if next.isFailed = true ∨ next.isQuarantined = true then
    return ()
  else
    require (stepAllowed origin intent previous next = true)
      "illegal rebalance executor state transition"
    validateProgressEvidence intent next

variable {progress : RebalanceExecutionProgress}

theorem isQuarantined_of_active (active : progress.terminal = false) :
    progress.isQuarantined = false := by
  cases progress with
  | quarantined => cases active
  | _ => rfl

variable {previous next : RebalanceExecutionProgress} {intent : RebalanceExecutionIntent}

section

variable (active : previous.terminal = false)
include active

theorem retryableTravelRuleOwnershipReopen_of_active (next : RebalanceExecutionProgress) :
    retryableTravelRuleOwnershipReopen previous next = false := by
  cases previous with
  | failed => cases active
  | _ => rfl

theorem retryableUnindexedMasterTransferReopen_of_active (next : RebalanceExecutionProgress) :
    retryableUnindexedMasterTransferReopen previous next = false := by
  cases previous with
  | quarantined => cases active
  | _ => rfl

/-- An operation that is under way fails, is quarantined or takes a step of its route. -/
theorem validateTransition_active {origin : TransitionOrigin}
    (valid : validateTransition intent previous next origin = .ok ()) :
    next.isFailed = true ∨ next.isQuarantined = true ∨
      stepAllowed origin intent previous next = true := by
  have kept : approvedQuarantineRetry intent previous next = false := by
    cases previous with
    | quarantined reason => cases active
    | _ => rfl
  rw [validateTransition, bind_eq_ok] at valid
  obtain ⟨⟨⟩, -, valid⟩ := valid
  rw [if_neg (by rw [kept]; decide)] at valid
  split at valid
  · rename_i halted
    exact halted.imp_right Or.inl
  · rw [bind_eq_ok] at valid
    obtain ⟨⟨⟩, allowed, -⟩ := valid
    exact Or.inr (Or.inr (require_eq_ok.mp allowed))

end

/-- A completed or cancelled operation stays as it is. -/
theorem validateTransition_terminal {origin : TransitionOrigin}
    (terminal : previous.terminal = true)
    (valid : validateTransition intent previous next origin = .ok ()) :
    previous.isFailed = true ∨ previous.isQuarantined = true := by
  rw [validateTransition, bind_eq_ok] at valid
  obtain ⟨⟨⟩, approved, -⟩ := valid
  rw [require_eq_ok] at approved
  cases previous with
  | failed reason => exact Or.inl rfl
  | quarantined reason => exact Or.inr rfl
  | completed | cancelledStale =>
    -- the approvals are for failures and quarantines
    rcases approved with approved | approved | approved | approved <;> cases approved
  | _ => cases terminal

theorem approvedTerminalRetry_replay
    (approved : approvedTerminalRetry .liveAppend previous next = true) :
    approvedTerminalRetry .journalReplay previous next = true := by
  unfold approvedTerminalRetry at approved ⊢
  split at approved
  · simp only [reduceCtorEq, decide_false, Bool.false_and, Bool.or_false] at approved
    simp only [Bool.or_eq_true, Bool.and_eq_true] at approved ⊢
    exact approved.imp_left fun h => h.imp_left fun h => ⟨h.1, Or.inl h.2⟩
  · cases approved

theorem stepAllowed_replay (allowed : stepAllowed .liveAppend intent previous next = true) :
    stepAllowed .journalReplay intent previous next = true := by
  -- the origin is read only where a failure is retried
  cases previous with
  | failed reason =>
    cases next with
    | binanceWithdrawalSubmissionStarted apiMode before queries =>
      simp only [stepAllowed, Bool.and_eq_true] at allowed ⊢
      exact ⟨allowed.1, approvedTerminalRetry_replay allowed.2⟩
    | _ => simpa only [stepAllowed] using allowed
  | _ => simpa only [stepAllowed] using allowed

/-- Reading a journal back checks less than appending to it. -/
theorem validateTransition_replay
    (valid : validateTransition intent previous next .liveAppend = .ok ()) :
    validateTransition intent previous next .journalReplay = .ok () := by
  rw [validateTransition, bind_eq_ok] at valid ⊢
  obtain ⟨⟨⟩, approved, valid⟩ := valid
  rw [require_eq_ok] at approved
  refine ⟨(), require_of (approved.imp_right fun h => h.imp_left approvedTerminalRetry_replay), ?_⟩
  split_ifs at valid ⊢
  · exact valid
  · rfl
  · rw [bind_eq_ok] at valid ⊢
    obtain ⟨⟨⟩, allowed, evidence⟩ := valid
    exact ⟨(), require_of (stepAllowed_replay (require_eq_ok.mp allowed)), evidence⟩

end PolyBot.Rebalance
