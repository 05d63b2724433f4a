import PolyBot.Bridge.Calldata
import PolyBot.Lib.Loop

/-!
# Bridge quotes

Capital moves between chains by a call whose target and bytes an API returns.  `validateQuote`
compares the response with the request and with itself, and decodes the calldata of the two
contracts that are known: the deposit of the spoke pool and the burn of the CCTP messenger.

* `validateQuote_binds_funds`: an accepted response moves the requested funds and nothing else.
* `same_authority_iff_same_spender`: the contract that is called is the one the response names.
* `validateQuote_panics`: a response ends the process only where the text of a call does.
-/

namespace PolyBot.Bridge

open Abi

open PolyBot.Trade (addressFromStr)

def optimismChainId : Nat := 10

def worldChainChainId : Nat := 480

def optimismUsdc : Address := 0x0b2C639c533813f4Aa9D7837CAf62653d097Ff85

def worldChainUsdc : Address := 0x79A02482A880bCE3F13e09Da970dC34db4CD24d1

def lineaUsdc : Address := 0x176211869cA2b568f2A7D4EE941E073a821EE1ff

def optimismUsdt : Address := 0x94b008aA00579c1307B0EF2c499aD98a8ce58e58

def lineaUsdt : Address := 0xA219439258ca9da29E9Cc4cE5596924745e12B93

def optimismWld : Address := 0xdC6fF44d5d932Cbd77B52E5612Ba0529DC6226F1

def worldChainWld : Address := 0x2cFc85d8E48F8EAB294be644d9E25C3030863003

def maxQuoteExpirySeconds : Nat := 7200

/-- `deposit(bytes32,bytes32,bytes32,bytes32,uint256,uint256,uint256,bytes32,uint32,uint32,uint32,bytes)`,
which the source calls `depositV3`. -/
def acrossDepositV3Selector : List UInt8 := [0xad, 0x54, 0x25, 0xc6]

/-- `depositForBurn(uint256,uint32,bytes32,address,bytes32,uint256,uint32)`. -/
def cctpV2DepositForBurnSelector : List UInt8 := [0x8e, 0x02, 0x50, 0xee]

/-- `approve(address,uint256)`. -/
def approveSelector : List UInt8 := [0x09, 0x5e, 0xa7, 0xb3]

def maxCctpTrailingIntegratorBytes : Nat := 32

structure AcrossQuoteRequest where
  originChainId : Nat
  destinationChainId : Nat
  inputToken : Address
  outputToken : Address
  amount : Nat
  depositor : Address
  recipient : Address

structure AcrossAllowanceCheck where
  token : String
  spender : String
  actual : String
  expected : String

structure AcrossBalanceCheck where
  token : String
  actual : String
  expected : String

structure AcrossToken where
  decimals : Nat
  symbol : String
  address : String
  chainId : Nat

/-- A JSON value, as far as `transactionInteger` tells them apart; a number is given by what
`as_u64` makes of it. -/
inductive JsonValue
  | null
  | number (asU64 : Option Nat)
  | string (value : String)
  | other

structure AcrossTransaction where
  chainId : Nat
  toAddress : String
  data : String
  value : JsonValue

structure AcrossQuote where
  amountType : String
  allowance : AcrossAllowanceCheck
  balance : AcrossBalanceCheck
  approvalTxns : List AcrossTransaction
  inputToken : AcrossToken
  outputToken : AcrossToken
  feesTotalAmount : String
  inputAmount : String
  maxInputAmount : String
  expectedOutputAmount : String
  minOutputAmount : String
  expectedFillTime : Nat
  swapTx : AcrossTransaction
  quoteExpiryTimestamp : Nat
  id : String

structure ValidatedErc20Transaction where
  target : Address
  data : List UInt8
  deriving DecidableEq

structure ValidatedErc20Quote where
  approval : Option ValidatedErc20Transaction
  swap : ValidatedErc20Transaction
  minimumOutputAmount : Nat
  deriving DecidableEq

structure ValidatedSwapCalldata where
  bytes : List UInt8
  finiteDeadlineUnixSeconds : Option Nat
  deriving DecidableEq

/-- The readings of the clock while one quote is validated; the clock may stand before the epoch. -/
structure QuoteClock where
  atQuoteTimestamp : Option Nat
  atFillDeadline : Option Nat
  atQuoteExpiry : Option Nat

def unixTimestampSeconds (reading : Option Nat) : Except String Nat :=
  orError reading "system clock is before Unix epoch"

/-! ## Fields of the response -/

def parseAddress (name value : String) : Except String Address :=
  orError (addressFromStr value) s!"Across {name} is not an EVM address"

def parseAmount (name value : String) : Except String Nat :=
  orError (fromStrRadix 128 10 value.toList) s!"Across {name} is not an unsigned integer"

def parseU256Amount (name value : String) : Except String Nat :=
  orError (u256FromStr value) s!"Across {name} is not an unsigned uint256 integer"

def transactionInteger (name : String) : JsonValue → Except String Nat
  | .null => .ok 0
  | .number asU64 => orError asU64 s!"Across {name} is not an unsigned integer"
  | .string value =>
    match value.toList with
    | '0' :: 'x' :: hex => orError (fromStrRadix 128 16 hex) s!"Across {name} is not a hex integer"
    | _ => parseAmount name value
  | .other => .error s!"Across {name} is not an unsigned integer"

def ensureToken (token : AcrossToken) (chainId : Nat) (address : Address) : Except String Unit := do
  require (token.chainId = chainId) "Across token chain mismatch"
  let parsed ← parseAddress "token.address" token.address
  require (parsed = address) "Across token address mismatch"

def ensureCheckToken (value : String) (expected : Address) : Except String Unit := do
  let parsed ← parseAddress "check.token" value
  require (parsed = expected) "Across check token mismatch"

variable (request : AcrossQuoteRequest)

/-- The symbol and the decimals of an approved pair of tokens. -/
def supportedErc20Pair : Except String (String × Nat) :=
  let pair := (request.inputToken, request.outputToken)
  if pair = (optimismUsdc, worldChainUsdc) ∨ pair = (worldChainUsdc, optimismUsdc) then
    .ok ("USDC", 6)
  else if pair = (optimismUsdc, lineaUsdc) ∨ pair = (lineaUsdc, optimismUsdc) then .ok ("USDC", 6)
  else if pair = (optimismUsdt, lineaUsdt) ∨ pair = (lineaUsdt, optimismUsdt) then .ok ("USDT", 6)
  else if pair = (optimismWld, worldChainWld) ∨ pair = (worldChainWld, optimismWld) then
    .ok ("WLD", 18)
  else .error "Across token pair is not an approved rebalance route"

/-- The Circle domain of a chain. -/
def circleDomain (chainId : Nat) : Except String Nat :=
  if chainId = optimismChainId then .ok 2
  else if chainId = worldChainChainId then .ok 14
  else .error "Across CCTP destination chain is not approved"

def validateQuoteExpiry (quoteExpiryTimestamp : Nat) (finiteDeadlineUnixSeconds : Option Nat)
    (now : Nat) : Except String Unit := do
  if quoteExpiryTimestamp = 0 then return ()
  require (now < quoteExpiryTimestamp) "Across quote is already expired"
  require (quoteExpiryTimestamp ≤ now + maxQuoteExpirySeconds)
    "Across quote expiry is outside the safety bound"
  require (∀ deadline ∈ finiteDeadlineUnixSeconds, quoteExpiryTimestamp ≤ deadline)
    "Across quote expiry exceeds calldata deadline"

/-! ## Calldata of the response -/

/-- The end of a fill: a finite one is not past and not far ahead. -/
def validateFillDeadline (fillDeadline now : Nat) : Except String Unit := do
  if fillDeadline = 2 ^ 32 - 1 then return ()
  require (now < fillDeadline) "Across calldata fill deadline expired"
  require (fillDeadline ≤ now + maxQuoteExpirySeconds)
    "Across calldata fill deadline is outside the safety bound"

/-- The clock is read only for a timestamp that is not zero. -/
def quoteTimestampWithin (clock : QuoteClock) (quoteTimestamp : Nat) : Except String Bool :=
  if 0 < quoteTimestamp then do
    let now ← unixTimestampSeconds clock.atQuoteTimestamp
    return quoteTimestamp ≤ now + maxQuoteExpirySeconds
  else return false

def validateDepositV3Calldata (clock : QuoteClock) (request : AcrossQuoteRequest)
    (bytes : List UInt8) (minOutput : Nat) : Except String ValidatedSwapCalldata := do
  require (4 + 12 * 32 ≤ bytes.length) "Across depositV3 calldata is truncated"
  let depositor ← addressWord bytes 0
  require (depositor = request.depositor) "Across calldata depositor mismatch"
  let recipient ← addressWord bytes 1
  require (recipient = request.recipient) "Across calldata recipient mismatch"
  let inputToken ← addressWord bytes 2
  require (inputToken = request.inputToken) "Across calldata input token mismatch"
  let outputToken ← addressWord bytes 3
  require (outputToken = request.outputToken) "Across calldata output token mismatch"
  let inputAmount ← u256WordFitsU128 bytes 4
  require (inputAmount = request.amount) "Across calldata input amount mismatch"
  let outputAmount ← u256WordFitsU128 bytes 5
  require (outputAmount = minOutput) "Across calldata minimum output mismatch"
  let destinationChainId ← u256WordFitsU64 bytes 6
  require (destinationChainId = request.destinationChainId)
    "Across calldata destination chain mismatch"
  let quoteTimestamp ← u256WordFitsU64 bytes 8
  let within ← quoteTimestampWithin clock quoteTimestamp
  require (within = true) "Across calldata quote timestamp is outside the safety bound"
  let fillDeadline ← u256WordFitsU64 bytes 9
  let now ← unixTimestampSeconds clock.atFillDeadline
  validateFillDeadline fillDeadline now
  let exclusivityDeadline ← u256WordFitsU64 bytes 10
  require (exclusivityDeadline ≤ fillDeadline) "Across calldata exclusivity exceeds fill deadline"
  return ⟨bytes, if fillDeadline = 2 ^ 32 - 1 then none else some fillDeadline⟩

def validateCctpV2DepositForBurnCalldata (bytes : List UInt8) (minOutput : Nat) :
    Except String ValidatedSwapCalldata := do
  require (request.inputToken = optimismUsdc ∨ request.inputToken = worldChainUsdc)
    "Across CCTP calldata is only approved for USDC"
  require (4 + 7 * 32 ≤ bytes.length) "Across CCTP calldata is truncated"
  require ((bytes.drop (4 + 7 * 32)).length ≤ maxCctpTrailingIntegratorBytes)
    "Across CCTP calldata has unexpected trailing data"
  let amount ← u256WordFitsU128 bytes 0
  require (amount = request.amount) "Across CCTP input amount mismatch"
  let domain ← u256WordFitsU64 bytes 1
  let expected ← circleDomain request.destinationChainId
  require (domain = expected) "Across CCTP destination domain mismatch"
  let mintRecipient ← addressWord bytes 2
  require (mintRecipient = request.recipient) "Across CCTP mint recipient mismatch"
  let burnToken ← addressWord bytes 3
  require (burnToken = request.inputToken) "Across CCTP burn token mismatch"
  let destinationCaller ← word bytes 4
  require (destinationCaller.all (· = 0) = true ∨ (destinationCaller.take 12).all (· = 0) = true)
    "Across CCTP destination caller is not canonical"
  let maxFee ← u256WordFitsU128 bytes 5
  require ((checkedSub request.amount maxFee).any (minOutput ≤ ·) = true)
    "Across CCTP max fee exceeds the accepted minimum output"
  let minFinalityThreshold ← u256WordFitsU64 bytes 6
  require (0 < minFinalityThreshold ∧ minFinalityThreshold ≤ 2 ^ 32 - 1)
    "Across CCTP finality threshold is invalid"
  return ⟨bytes, none⟩

def validateSwapCalldata (clock : QuoteClock) (request : AcrossQuoteRequest) (data : String)
    (minOutput : Nat) : Except DecodeFailure ValidatedSwapCalldata := do
  let bytes ← decodeCalldata "swapTx.data" data
  require (4 + 7 * 32 ≤ bytes.length ∧ bytes.length ≤ 16384) "Across swap calldata length is invalid"
  if bytes.take 4 = acrossDepositV3Selector then
    validateDepositV3Calldata clock request bytes minOutput
  else if bytes.take 4 = cctpV2DepositForBurnSelector then
    validateCctpV2DepositForBurnCalldata request bytes minOutput
  else .error "Across swap calldata selector changed"

/-- The one approval transaction that a response may ask for. -/
def validateApproval (approval : AcrossTransaction) (spender : Address) :
    Except DecodeFailure ValidatedErc20Transaction := do
  require (approval.chainId = request.originChainId) "Across approval chain mismatch"
  let target ← parseAddress "approval.to" approval.toAddress
  require (target = request.inputToken) "Across approval token mismatch"
  let value ← transactionInteger "approval.value" approval.value
  require (value = 0) "Across approval transaction has non-zero native value"
  let bytes ← decodeCalldata "approval.data" approval.data
  require (bytes.length = 68 ∧ bytes.take 4 = approveSelector)
    "Across approval calldata is not ERC20 approve"
  let approved ← addressWord bytes 0
  require (approved = spender) "Across approval spender mismatch"
  let enough ← u256WordIsAtLeastU128 bytes 1 request.amount
  require (enough = true) "Across approval amount is too small"
  return ⟨request.inputToken, bytes⟩

def validateApprovals (quote : AcrossQuote) (spender : Address) :
    Except DecodeFailure (Option ValidatedErc20Transaction) := do
  let actual ← parseU256Amount "allowance.actual" quote.allowance.actual
  match quote.approvalTxns with
  | [] => do
    require (request.amount ≤ actual) "Across omitted approval for insufficient allowance"
    return none
  | [approval] => do
    let validated ← validateApproval request approval spender
    return some validated
  | _ => .error "Across returned multiple approval transactions"

/-- The checks of a response before its transactions: kind, tokens, amounts and the checks that the
API reports.  Returns the minimum output. -/
def validateTerms (quote : AcrossQuote) : Except String Nat := do
  require (quote.amountType = "exactInput") "Across changed the quote amount type"
  require (quote.id ≠ "" ∧ quote.id.utf8ByteSize ≤ 256) "Across quote id is invalid"
  ensureToken quote.inputToken request.originChainId request.inputToken
  ensureToken quote.outputToken request.destinationChainId request.outputToken
  require (quote.inputToken.decimals = quote.outputToken.decimals) "Across token decimals differ"
  let (expectedSymbol, expectedDecimals) ← supportedErc20Pair request
  require (quote.inputToken.symbol = expectedSymbol ∧ quote.outputToken.symbol = expectedSymbol)
    "Across returned an unexpected token symbol"
  require (quote.inputToken.decimals = expectedDecimals) "Across returned unexpected token decimals"
  let inputAmount ← parseAmount "inputAmount" quote.inputAmount
  let maxInput ← parseAmount "maxInputAmount" quote.maxInputAmount
  let expectedOutput ← parseAmount "expectedOutputAmount" quote.expectedOutputAmount
  let minOutput ← parseAmount "minOutputAmount" quote.minOutputAmount
  let fee ← parseAmount "fees.total.amount" quote.feesTotalAmount
  require (inputAmount = request.amount ∧ maxInput = request.amount)
    "Across changed the exact input amount"
  require (0 < expectedOutput ∧ expectedOutput ≤ request.amount) "Across expected output is invalid"
  require (0 < minOutput ∧ minOutput ≤ expectedOutput) "Across minimum output is invalid"
  require (fee < request.amount) "Across fee consumes the full input amount"
  require (quote.expectedFillTime ≤ 600) "Across expected fill time exceeds the safety bound"
  ensureCheckToken quote.allowance.token request.inputToken
  ensureCheckToken quote.balance.token request.inputToken
  let allowanceExpected ← parseAmount "allowance.expected" quote.allowance.expected
  require (allowanceExpected = request.amount) "Across allowance expectation changed"
  let balanceExpected ← parseAmount "balance.expected" quote.balance.expected
  require (balanceExpected = request.amount) "Across balance expectation changed"
  return minOutput

def validateQuote (clock : QuoteClock) (request : AcrossQuoteRequest) (quote : AcrossQuote) :
    Except DecodeFailure ValidatedErc20Quote := do
  let minOutput ← validateTerms request quote
  let spender ← parseAddress "allowance.spender" quote.allowance.spender
  require (quote.swapTx.chainId = request.originChainId) "Across swap chain mismatch"
  let target ← parseAddress "swapTx.to" quote.swapTx.toAddress
  require (target = spender) "Across swap target differs from allowance spender"
  let value ← transactionInteger "swapTx.value" quote.swapTx.value
  require (value = 0) "Across ERC20 swap transaction has non-zero native value"
  let swapData ← validateSwapCalldata clock request quote.swapTx.data minOutput
  let now ← unixTimestampSeconds clock.atQuoteExpiry
  validateQuoteExpiry quote.quoteExpiryTimestamp swapData.finiteDeadlineUnixSeconds now
  let approval ← validateApprovals request quote spender
  return ⟨approval, ⟨spender, swapData.bytes⟩, minOutput⟩

/-! ## A burn of one dollar -/

/-- One dollar of USDC from Optimism to World Chain. -/
def dollarRequest : AcrossQuoteRequest where
  originChainId := optimismChainId
  destinationChainId := worldChainChainId
  inputToken := optimismUsdc
  outputToken := worldChainUsdc
  amount := 1000000
  depositor := 0x1111111111111111111111111111111111111111
  recipient := 0x1111111111111111111111111111111111111111

/-- The word of a number. -/
def wordOf (value : Nat) : List UInt8 :=
  (List.range 32).map fun index => UInt8.ofNat (value / 256 ^ (31 - index))

/-- A burn for the request with a fee of at most a hundredth of a cent. -/
def dollarBurn : List UInt8 :=
  cctpV2DepositForBurnSelector ++ wordOf 1000000 ++ wordOf 14 ++
    wordOf 0x1111111111111111111111111111111111111111 ++ wordOf optimismUsdc.toNat ++ wordOf 0 ++
    wordOf 100 ++ wordOf 1000

def dollarApproval (contract : Address) : List UInt8 :=
  approveSelector ++ wordOf contract.toNat ++ wordOf 1000000

def usdcText : String := "0x0b2C639c533813f4Aa9D7837CAf62653d097Ff85"

/-- The response to the request that calls, and asks to approve, one contract. -/
def dollarQuote (text : String) (contract : Address) : AcrossQuote where
  amountType := "exactInput"
  allowance := ⟨usdcText, text, "0", "1000000"⟩
  balance := ⟨usdcText, "1000000", "1000000"⟩
  approvalTxns := [⟨optimismChainId, usdcText, encodeCalldata (dollarApproval contract), .null⟩]
  inputToken := ⟨6, "USDC", usdcText, optimismChainId⟩
  outputToken := ⟨6, "USDC", "0x79A02482A880bCE3F13e09Da970dC34db4CD24d1", worldChainChainId⟩
  feesTotalAmount := "100"
  inputAmount := "1000000"
  maxInputAmount := "1000000"
  expectedOutputAmount := "999900"
  minOutputAmount := "999900"
  expectedFillTime := 20
  swapTx := ⟨optimismChainId, text, encodeCalldata dollarBurn, .null⟩
  quoteExpiryTimestamp := 0
  id := "quote"

def dollarTerms (contract : Address) : ValidatedErc20Quote where
  approval := some ⟨optimismUsdc, dollarApproval contract⟩
  swap := ⟨contract, dollarBurn⟩
  minimumOutputAmount := 999900

def quoteClock : QuoteClock := ⟨none, none, some 1700000000⟩

theorem dollarQuote_terms (text : String) (contract : Address) :
    validateTerms dollarRequest (dollarQuote text contract) = .ok 999900 := by
  have unread : validateTerms dollarRequest (dollarQuote text contract) =
      validateTerms dollarRequest (dollarQuote "" 0) := rfl
  rw [unread]
  decide +kernel

theorem dollarBurn_accepted :
    validateSwapCalldata quoteClock dollarRequest (encodeCalldata dollarBurn) 999900 =
      .ok ⟨dollarBurn, none⟩ := by
  rw [validateSwapCalldata, decodeCalldata_encode]
  decide +kernel

theorem usdcText_spells : addressFromStr usdcText = some optimismUsdc := by
  decide +kernel

variable {contract : Address} {text : String}

theorem dollarApproval_accepted (spender : addressWord (dollarApproval contract) 0 = .ok contract)
    (amount : u256WordIsAtLeastU128 (dollarApproval contract) 1 1000000 = .ok true) :
    validateApprovals dollarRequest (dollarQuote text contract) contract =
      .ok (some ⟨optimismUsdc, dollarApproval contract⟩) := by
  have names : parseAddress "approval.to" usdcText = .ok optimismUsdc := by
    simp [parseAddress, usdcText_spells, orError]
  have layout : (dollarApproval contract).length = 68 ∧
      (dollarApproval contract).take 4 = approveSelector := ⟨rfl, rfl⟩
  have single : validateApproval dollarRequest
      ⟨optimismChainId, usdcText, encodeCalldata (dollarApproval contract), .null⟩ contract =
        .ok ⟨optimismUsdc, dollarApproval contract⟩ := by
    simp only [validateApproval, bind_eq_ok, liftM_eq_ok, require_eq_ok, pure_eq_ok, exists_const]
    exact ⟨rfl, _, names, rfl, 0, rfl, rfl, _, decodeCalldata_encode _ _, layout, contract, spender,
      rfl, true, amount, rfl, rfl⟩
  have actual : parseU256Amount "allowance.actual" "0" = .ok 0 := by decide +kernel
  simp only [validateApprovals, dollarQuote, actual, single]
  rfl

/-- The response is accepted for every contract that its two texts name. -/
theorem dollarQuote_accepted (spells : addressFromStr text = some contract)
    (spender : addressWord (dollarApproval contract) 0 = .ok contract)
    (amount : u256WordIsAtLeastU128 (dollarApproval contract) 1 1000000 = .ok true) :
    validateQuote quoteClock dollarRequest (dollarQuote text contract) =
      .ok (dollarTerms contract) := by
  have names (name : String) : parseAddress name text = .ok contract := by
    simp [parseAddress, spells, orError]
  simp only [validateQuote, bind_eq_ok, liftM_eq_ok, require_eq_ok, pure_eq_ok, exists_const]
  exact ⟨999900, dollarQuote_terms text contract, contract, names _, rfl, contract, names _, rfl, 0,
    rfl, rfl, _, dollarBurn_accepted, 1700000000, rfl, (), rfl, _,
    dollarApproval_accepted spender amount, rfl⟩

/-- The token messenger of the CCTP. -/
def messenger : Address := 0x28b5a0e9c621a5badaa536219b3a228c8168cf5d

/-- Some other contract, which a response may name as well. -/
def stranger : Address := 0xdeadbeefdeadbeefdeadbeefdeadbeefdeadbeef

def messengerQuote : AcrossQuote := dollarQuote "0x28b5a0E9C621a5BadaA536219b3a228C8168cf5d" messenger

def strangerQuote : AcrossQuote := dollarQuote "0xdeadbeefdeadbeefdeadbeefdeadbeefdeadbeef" stranger

theorem messengerQuote_accepted :
    validateQuote quoteClock dollarRequest messengerQuote = .ok (dollarTerms messenger) :=
  dollarQuote_accepted (by decide +kernel) (by decide +kernel) (by decide +kernel)

theorem strangerQuote_accepted :
    validateQuote quoteClock dollarRequest strangerQuote = .ok (dollarTerms stranger) :=
  dollarQuote_accepted (by decide +kernel) (by decide +kernel) (by decide +kernel)

/-! ## What a call does with the funds -/

/-- A call of one of the two bridge contracts, by the arguments that decide what is taken from the
caller and what arrives for whom.  The relayer, the deadlines and the message are left out. -/
inductive BridgeCall
  | deposit (depositor recipient inputToken outputToken : Address)
      (inputAmount outputAmount destinationChainId : Nat)
  | depositForBurn (amount destinationDomain : Nat) (mintRecipient burnToken : Address) (maxFee : Nat)

namespace BridgeCall

def debitedToken : BridgeCall → Address
  | deposit _ _ inputToken _ _ _ _ => inputToken
  | depositForBurn _ _ _ burnToken _ => burnToken

def debitedAmount : BridgeCall → Nat
  | deposit _ _ _ _ inputAmount _ _ => inputAmount
  | depositForBurn amount _ _ _ _ => amount

def recipient : BridgeCall → Address
  | deposit _ recipient _ _ _ _ _ => recipient
  | depositForBurn _ _ mintRecipient _ _ => mintRecipient

/-- The destination is a chain, or its Circle domain. -/
def Reaches (chainId : Nat) : BridgeCall → Prop
  | deposit _ _ _ _ _ _ destinationChainId => destinationChainId = chainId
  | depositForBurn _ destinationDomain _ _ _ => circleDomain chainId = .ok destinationDomain

/-- What arrives at least: the output of a deposit, or what the highest fee leaves of a burn. -/
def guaranteedOutput : BridgeCall → Nat
  | deposit _ _ _ _ _ outputAmount _ => outputAmount
  | depositForBurn amount _ _ _ maxFee => amount - maxFee

end BridgeCall

/-- Calldata by the interface of its selector. -/
def decodeBridgeCall (data : List UInt8) : Option BridgeCall :=
  if data.take 4 = acrossDepositV3Selector then do
    let depositor ← address data 0
    let recipient ← address data 1
    let inputToken ← address data 2
    let outputToken ← address data 3
    let inputAmount ← uint 256 data 4
    let outputAmount ← uint 256 data 5
    let destinationChainId ← uint 256 data 6
    return .deposit depositor recipient inputToken outputToken inputAmount outputAmount
      destinationChainId
  else if data.take 4 = cctpV2DepositForBurnSelector then do
    let amount ← uint 256 data 0
    let destinationDomain ← uint 32 data 1
    let mintRecipient ← address data 2
    let burnToken ← address data 3
    let maxFee ← uint 256 data 5
    return .depositForBurn amount destinationDomain mintRecipient burnToken maxFee
  else none

/-- The spender and the allowance of an approval. -/
def decodeApproval (data : List UInt8) : Option (Address × Nat) :=
  if data.take 4 = approveSelector then do
    let spender ← address data 0
    let amount ← uint 256 data 1
    return (spender, amount)
  else none

/-- The terms move what the request says and nothing else. -/
structure BindsFunds (request : AcrossQuoteRequest) (quote : AcrossQuote)
    (terms : ValidatedErc20Quote) : Prop where
  swap : ∃ call, decodeBridgeCall terms.swap.data = some call ∧
    call.debitedToken = request.inputToken ∧ call.debitedAmount = request.amount ∧
    call.recipient = request.recipient ∧ call.Reaches request.destinationChainId ∧
    terms.minimumOutputAmount ≤ call.guaranteedOutput
  output : 0 < terms.minimumOutputAmount
  native : transactionInteger "swapTx.value" quote.swapTx.value = .ok 0
  approval : ∀ approval ∈ terms.approval, approval.target = request.inputToken ∧
    ∃ allowance, decodeApproval approval.data = some (terms.swap.target, allowance) ∧
      request.amount ≤ allowance

variable {clock : QuoteClock} {request : AcrossQuoteRequest} {quote : AcrossQuote}

section Accepted

variable {bytes : List UInt8} {minOutput : Nat} {calldata : ValidatedSwapCalldata}

/-- A call that does what the request and the minimum output say. -/
def BridgeCall.Fulfils (request : AcrossQuoteRequest) (minOutput : Nat) (call : BridgeCall) : Prop :=
  call.debitedToken = request.inputToken ∧ call.debitedAmount = request.amount ∧
    call.recipient = request.recipient ∧ call.Reaches request.destinationChainId ∧
    minOutput ≤ call.guaranteedOutput

variable {index value : Nat} {spender : Address}

theorem u256WordFitsU128_uint (read : u256WordFitsU128 bytes index = .ok value) :
    uint 256 bytes index = some value :=
  uint_mono (by decide) (wordTail_eq_ok.mp read)

theorem u256WordFitsU64_uint (read : u256WordFitsU64 bytes index = .ok value) :
    uint 256 bytes index = some value :=
  uint_mono (by decide) (wordTail_eq_ok.mp read)

theorem validateDepositV3Calldata_spec
    (selector : bytes.take 4 = acrossDepositV3Selector)
    (accepted : validateDepositV3Calldata clock request bytes minOutput = .ok calldata) :
    calldata.bytes = bytes ∧
      ∃ call, decodeBridgeCall bytes = some call ∧ call.Fulfils request minOutput := by
  simp only [validateDepositV3Calldata, bind_eq_ok, require_eq_ok, pure_eq_ok, exists_const]
    at accepted
  obtain ⟨-, _, depositor, rfl, _, recipient, rfl, _, inputToken, rfl, _, outputToken, rfl, _,
    inputAmount, rfl, _, outputAmount, rfl, _, destination, rfl, _, -, _, -, -, _, -, _, -, _, -, _,
    -, -, rfl⟩ := accepted
  rw [addressWord_eq_ok] at depositor recipient inputToken outputToken
  refine ⟨rfl, .deposit request.depositor request.recipient request.inputToken request.outputToken
    request.amount _ request.destinationChainId, ?_, rfl, rfl, rfl, rfl, le_rfl⟩
  simp only [decodeBridgeCall, if_pos selector, depositor, recipient, inputToken, outputToken,
    u256WordFitsU128_uint inputAmount, u256WordFitsU128_uint outputAmount,
    u256WordFitsU64_uint destination, Option.bind_eq_bind, Option.bind_some]
  rfl

theorem circleDomain_lt {chainId domain : Nat} (known : circleDomain chainId = .ok domain) :
    domain < 2 ^ 32 := by
  unfold circleDomain at known
  split_ifs at known <;> cases known <;> decide

theorem validateCctpV2DepositForBurnCalldata_spec
    (selector : bytes.take 4 = cctpV2DepositForBurnSelector)
    (accepted : validateCctpV2DepositForBurnCalldata request bytes minOutput = .ok calldata) :
    calldata.bytes = bytes ∧
      ∃ call, decodeBridgeCall bytes = some call ∧ call.Fulfils request minOutput := by
  simp only [validateCctpV2DepositForBurnCalldata, bind_eq_ok, require_eq_ok, pure_eq_ok,
    exists_const] at accepted
  obtain ⟨-, -, -, _, amount, rfl, domain, readDomain, _, circle, rfl, _, recipient, rfl, _,
    burnToken, rfl, _, -, -, maxFee, readFee, covered, _, -, -, rfl⟩ := accepted
  have burns : bytes.take 4 ≠ acrossDepositV3Selector := by
    rw [selector]
    decide
  have domainWord : uint 32 bytes 1 = some domain := by
    have wide := u256WordFitsU64_uint readDomain
    unfold uint at wide ⊢
    rw [Option.filter_eq_some_iff] at wide ⊢
    exact ⟨wide.1, decide_eq_true (circleDomain_lt circle)⟩
  rw [addressWord_eq_ok] at recipient burnToken
  refine ⟨rfl, .depositForBurn request.amount domain request.recipient request.inputToken maxFee, ?_,
    rfl, rfl, rfl, circle, ?_⟩
  · simp only [decodeBridgeCall, if_neg burns, if_pos selector, u256WordFitsU128_uint amount,
      domainWord, recipient, burnToken, u256WordFitsU128_uint readFee, Option.bind_eq_bind,
      Option.bind_some]
    rfl
  · cases subtracted : checkedSub request.amount maxFee with
    | none => simp [subtracted] at covered
    | some left =>
      obtain ⟨-, rfl⟩ := checkedSub_eq_some.mp subtracted
      simpa [subtracted, BridgeCall.guaranteedOutput] using covered

theorem validateSwapCalldata_spec {data : String}
    (accepted : validateSwapCalldata clock request data minOutput = .ok calldata) :
    ∃ call, decodeBridgeCall calldata.bytes = some call ∧ call.Fulfils request minOutput := by
  simp only [validateSwapCalldata, bind_eq_ok, require_eq_ok, exists_const] at accepted
  obtain ⟨bytes, -, -, accepted⟩ := accepted
  split_ifs at accepted with deposits burns
  · obtain ⟨same, fulfils⟩ := validateDepositV3Calldata_spec deposits (liftM_eq_ok.mp accepted)
    rwa [same]
  · obtain ⟨same, fulfils⟩ :=
      validateCctpV2DepositForBurnCalldata_spec burns (liftM_eq_ok.mp accepted)
    rwa [same]

theorem parseAmount_lt {name value : String} {amount : Nat}
    (parsed : parseAmount name value = .ok amount) : amount < 2 ^ 128 :=
  fromStrRadix_lt (orError_eq_ok.mp parsed)

/-- The exact input is one of the amounts that the response spells, so it fits their type. -/
theorem validateTerms_spec (accepted : validateTerms request quote = .ok minOutput) :
    0 < minOutput ∧ request.amount < 2 ^ 128 := by
  simp only [validateTerms, bind_eq_ok, require_eq_ok, pure_eq_ok, exists_const] at accepted
  obtain ⟨-, -, _, -, _, -, -, ⟨_, _⟩, -, -, -, _, input, _, -, _, -, _, -, _, -, ⟨rfl, -⟩, -,
    positive, -, -, _, -, _, -, _, -, -, _, -, -, rfl⟩ := accepted
  exact ⟨positive.1, parseAmount_lt input⟩

theorem validateApproval_spec {approval : AcrossTransaction} {validated : ValidatedErc20Transaction}
    (small : request.amount < 2 ^ 128)
    (accepted : validateApproval request approval spender = .ok validated) :
    validated.target = request.inputToken ∧
      ∃ allowance, decodeApproval validated.data = some (spender, allowance) ∧
        request.amount ≤ allowance := by
  simp only [validateApproval, bind_eq_ok, liftM_eq_ok, require_eq_ok, pure_eq_ok, exists_const] at accepted
  obtain ⟨-, _, -, -, _, -, -, bytes, -, ⟨length, selector⟩, _, readSpender, rfl, enough, readAmount,
    rfl, rfl⟩ := accepted
  rw [addressWord_eq_ok] at readSpender
  obtain ⟨allowance, approves, atLeast⟩ := u256WordIsAtLeastU128_spec small readAmount
  refine ⟨rfl, allowance, ?_, atLeast⟩
  simp only [decodeApproval, if_pos selector, readSpender, approves, Option.bind_eq_bind,
    Option.bind_some]
  rfl

theorem validateApprovals_spec {approval : Option ValidatedErc20Transaction}
    (small : request.amount < 2 ^ 128)
    (accepted : validateApprovals request quote spender = .ok approval) :
    ∀ validated ∈ approval, validated.target = request.inputToken ∧
      ∃ allowance, decodeApproval validated.data = some (spender, allowance) ∧
        request.amount ≤ allowance := by
  unfold validateApprovals at accepted
  obtain ⟨actual, -, accepted⟩ := bind_eq_ok.mp accepted
  split at accepted
  · obtain ⟨_, -, none⟩ := bind_eq_ok.mp accepted
    cases none
    nofun
  · obtain ⟨validated, single, some⟩ := bind_eq_ok.mp accepted
    cases some
    rintro _ ⟨⟩
    exact validateApproval_spec small single
  · cases accepted

/-- The parts of an accepted response: every field of the terms has passed its own check. -/
theorem validateQuote_parts {terms : ValidatedErc20Quote}
    (accepted : validateQuote clock request quote = .ok terms) :
    validateTerms request quote = .ok terms.minimumOutputAmount ∧
      addressFromStr quote.allowance.spender = some terms.swap.target ∧
      transactionInteger "swapTx.value" quote.swapTx.value = .ok 0 ∧
      (∃ calldata, validateSwapCalldata clock request quote.swapTx.data terms.minimumOutputAmount =
        .ok calldata ∧ terms.swap.data = calldata.bytes) ∧
      validateApprovals request quote terms.swap.target = .ok terms.approval := by
  simp only [validateQuote, bind_eq_ok, liftM_eq_ok, require_eq_ok, pure_eq_ok, exists_const] at accepted
  obtain ⟨minOutput, checked, spender, named, -, target, -, -, value, native, rfl, calldata, swap, now,
    -, _, -, approval, approvals, rfl⟩ := accepted
  exact ⟨checked, orError_eq_ok.mp named, native, ⟨calldata, swap, rfl⟩, approvals⟩

/-- Every amount, token, recipient and destination of an accepted response is the request's. -/
theorem validateQuote_binds_funds (terms : ValidatedErc20Quote)
    (accepted : validateQuote clock request quote = .ok terms) :
    BindsFunds request quote terms := by
  obtain ⟨checked, -, native, ⟨calldata, swap, data⟩, approvals⟩ := validateQuote_parts accepted
  obtain ⟨positive, small⟩ := validateTerms_spec checked
  refine ⟨?_, positive, native, validateApprovals_spec small approvals⟩
  rw [data]
  exact validateSwapCalldata_spec swap

theorem validateQuote_binds_dollar :
    validateQuote quoteClock dollarRequest messengerQuote = .ok (dollarTerms messenger) ∧
      BindsFunds dollarRequest messengerQuote (dollarTerms messenger) :=
  ⟨messengerQuote_accepted, validateQuote_binds_funds _ messengerQuote_accepted⟩

end Accepted

/-! ## Panics -/

/-- A failure ends the process only where the text of a call cuts a character in two. -/
def AcrossQuote.Blames (quote : AcrossQuote) (failure : DecodeFailure) : Prop :=
  failure = .panicked →
    decodeCalldata "swapTx.data" quote.swapTx.data = .error .panicked ∨
      ∃ approval ∈ quote.approvalTxns,
        decodeCalldata "approval.data" approval.data = .error .panicked

theorem blames_message (message : String) : quote.Blames (.rejected message) := by
  rintro ⟨⟩

theorem failsWith_check {c : Prop} [Decidable c] {message : String} :
    FailsWith quote.Blames (require c (.rejected message)) :=
  failsWith_require (blames_message message)

theorem failsWith_liftM {α : Type} (checked : Except String α) :
    FailsWith quote.Blames (liftM checked : Except DecodeFailure α) := by
  rintro _ failed
  cases checked with
  | ok => cases failed
  | error message =>
    cases failed
    exact blames_message message

theorem failsWith_swapCalldata {minOutput : Nat} :
    FailsWith quote.Blames
      (validateSwapCalldata clock request quote.swapTx.data minOutput) := by
  refine .bind (fun e cut panicked => Or.inl (panicked ▸ cut)) fun bytes _ => ?_
  refine .bind failsWith_check fun _ _ => ?_
  split
  · exact failsWith_liftM _
  · split
    · exact failsWith_liftM _
    · rintro _ ⟨⟩
      exact blames_message _

theorem failsWith_approval {approval : AcrossTransaction} (mem : approval ∈ quote.approvalTxns)
    {spender : Address} : FailsWith quote.Blames (validateApproval request approval spender) := by
  refine .bind failsWith_check fun _ _ => .bind (failsWith_liftM _) fun _ _ => ?_
  refine .bind failsWith_check fun _ _ => .bind (failsWith_liftM _) fun _ _ => ?_
  refine .bind failsWith_check fun _ _ => ?_
  refine .bind (fun e cut panicked => Or.inr ⟨approval, mem, panicked ▸ cut⟩) fun bytes _ => ?_
  refine .bind failsWith_check fun _ _ => .bind (failsWith_liftM _) fun _ _ => ?_
  refine .bind failsWith_check fun _ _ => .bind (failsWith_liftM _) fun _ _ => ?_
  exact .bind failsWith_check fun _ _ => failsWith_pure _

theorem failsWith_approvals {spender : Address} :
    FailsWith quote.Blames (validateApprovals request quote spender) := by
  refine .bind (failsWith_liftM _) fun _ _ => ?_
  split
  · exact .bind failsWith_check fun _ _ => failsWith_pure _
  · rename_i approval single
    exact .bind (failsWith_approval (by simp [single])) fun _ _ => failsWith_pure _
  · rintro _ ⟨⟩
    exact blames_message _

/-- Every check of a response answers with a message; only the text of a call can end the process. -/
theorem validateQuote_panics : FailsWith quote.Blames (validateQuote clock request quote) := by
  refine .bind (failsWith_liftM _) fun _ _ => .bind (failsWith_liftM _) fun _ _ => ?_
  refine .bind failsWith_check fun _ _ => .bind (failsWith_liftM _) fun _ _ => ?_
  refine .bind failsWith_check fun _ _ => .bind (failsWith_liftM _) fun _ _ => ?_
  refine .bind failsWith_check fun _ _ => .bind failsWith_swapCalldata fun _ _ => ?_
  refine .bind (failsWith_liftM _) fun _ _ => .bind (failsWith_liftM _) fun _ _ => ?_
  exact .bind failsWith_approvals fun _ _ => failsWith_pure _

/-! ## Who is called -/

/-- The spender that the approval of the terms names. -/
def ValidatedErc20Quote.approvedSpender (terms : ValidatedErc20Quote) : Option Address := do
  let approval ← terms.approval
  let (spender, _) ← decodeApproval approval.data
  return spender

/-- Two terms call the same contract, and where both approve they approve the same one. -/
def SameAuthority (first second : ValidatedErc20Quote) : Prop :=
  first.swap.target = second.swap.target ∧
    ∀ spender ∈ first.approvedSpender, ∀ other ∈ second.approvedSpender, spender = other

section Authority

variable {otherClock : QuoteClock} {other : AcrossQuote} {terms otherTerms : ValidatedErc20Quote}

theorem approvedSpender_eq (accepted : validateQuote clock request quote = .ok terms) :
    ∀ spender ∈ terms.approvedSpender, spender = terms.swap.target := by
  obtain ⟨checked, -, -, -, approvals⟩ := validateQuote_parts accepted
  have approved := validateApprovals_spec (validateTerms_spec checked).2 approvals
  intro spender named
  cases asked : terms.approval with
  | none => simp [ValidatedErc20Quote.approvedSpender, asked] at named
  | some approval =>
    obtain ⟨-, allowance, decoded, -⟩ := approved approval asked
    simpa [ValidatedErc20Quote.approvedSpender, asked, decoded, eq_comm] using named

/-- The only check of the target compares it with the spender that the same response names, so two
responses agree on it exactly when they name the same spender, whatever their selectors are. -/
theorem same_authority_iff_same_spender (accepted : validateQuote clock request quote = .ok terms)
    (otherAccepted : validateQuote otherClock request other = .ok otherTerms) :
    SameAuthority terms otherTerms ↔
      addressFromStr quote.allowance.spender = addressFromStr other.allowance.spender := by
  obtain ⟨-, named, -⟩ := validateQuote_parts accepted
  obtain ⟨-, otherNamed, -⟩ := validateQuote_parts otherAccepted
  rw [named, otherNamed, Option.some.injEq]
  constructor
  · exact And.left
  · intro same
    refine ⟨same, fun spender approved otherSpender otherApproved => ?_⟩
    rw [approvedSpender_eq accepted spender approved,
      approvedSpender_eq otherAccepted otherSpender otherApproved, same]

/-- Two responses to one request, with the same selector, of which the second has a contract of its
own approved and called. -/
theorem stranger_called :
    validateQuote quoteClock dollarRequest messengerQuote = .ok (dollarTerms messenger) ∧
      validateQuote quoteClock dollarRequest strangerQuote = .ok (dollarTerms stranger) ∧
      (dollarTerms messenger).swap.data.take 4 = (dollarTerms stranger).swap.data.take 4 ∧
      (dollarTerms messenger).swap.target ≠ (dollarTerms stranger).swap.target ∧
      (dollarTerms messenger).approvedSpender = some messenger ∧
      (dollarTerms stranger).approvedSpender = some stranger ∧ messenger ≠ stranger := by
  refine ⟨messengerQuote_accepted, strangerQuote_accepted, rfl, ?_, ?_, ?_, ?_⟩
  all_goals decide +kernel

theorem same_authority_of_messenger :
    SameAuthority (dollarTerms messenger) (dollarTerms messenger) ∧
      ¬ SameAuthority (dollarTerms messenger) (dollarTerms stranger) := by
  refine ⟨(same_authority_iff_same_spender messengerQuote_accepted messengerQuote_accepted).mpr rfl,
    ?_⟩
  rw [same_authority_iff_same_spender messengerQuote_accepted strangerQuote_accepted]
  decide +kernel

/-- A response that asks for no approval stays accepted when it names any other contract. -/
theorem validateQuote_redirect {text : String} {target : Address}
    (spells : addressFromStr text = some target) (approved : quote.approvalTxns = [])
    (accepted : validateQuote clock request quote = .ok terms) :
    validateQuote clock request { quote with
      allowance := { quote.allowance with spender := text }
      swapTx := { quote.swapTx with toAddress := text } } =
        .ok { terms with swap := { terms.swap with target } } := by
  simp only [validateQuote, bind_eq_ok, liftM_eq_ok, require_eq_ok, pure_eq_ok, exists_const] at accepted ⊢
  obtain ⟨minOutput, checked, spender, -, chain, _, -, -, value, native, zero, calldata, swap, now,
    read, _, unexpired, approval, approvals, rfl⟩ := accepted
  have names (name : String) : parseAddress name text = .ok target := by
    simp [parseAddress, spells, orError]
  refine ⟨minOutput, checked, target, names _, chain, target, names _, rfl, value, native, zero,
    calldata, swap, now, read, (), unexpired, approval, ?_, rfl⟩
  simpa [validateApprovals, approved] using approvals

/-- A response without an approval: the messenger is allowed the amount already. -/
def allowedQuote : AcrossQuote :=
  { messengerQuote with
    allowance := { messengerQuote.allowance with actual := "1000000" }
    approvalTxns := [] }

theorem allowedQuote_redirected :
    validateQuote quoteClock dollarRequest { allowedQuote with
      allowance := { allowedQuote.allowance with spender := strangerQuote.allowance.spender }
      swapTx := { allowedQuote.swapTx with toAddress := strangerQuote.allowance.spender } } =
        .ok { dollarTerms stranger with approval := none } := by
  have accepted : validateQuote quoteClock dollarRequest allowedQuote =
      .ok { dollarTerms messenger with approval := none } := by
    simp only [validateQuote, bind_eq_ok, liftM_eq_ok, require_eq_ok, pure_eq_ok, exists_const]
    exact ⟨999900, dollarQuote_terms "" messenger, messenger, by decide +kernel, rfl, messenger,
      by decide +kernel, rfl, 0, rfl, rfl, _, dollarBurn_accepted, 1700000000, rfl, (), rfl, none,
      by decide +kernel, rfl⟩
  exact validateQuote_redirect (by decide +kernel) rfl accepted

end Authority

end PolyBot.Bridge
