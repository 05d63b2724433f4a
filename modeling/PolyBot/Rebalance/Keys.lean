import PolyBot.Opportunity.Economics
import PolyBot.Rebalance.Journal

/-!
# The keys of a rebalance at the venue

A transfer is submitted under a key and looked up by it before it is submitted again.  The keys are
made from the fingerprint of the request alone; only the id of the operation carries the sequence
number.  Two operations for one request have different ids and the same keys, and the second one
finds the transfer of the first.

* `matching`: the lookup of a key, which the three histories share.
* `existingMasterTransfer`: looking up a transfer and taking it over.
* `keys_differ_iff_requests_differ`: the keys tell two operations apart exactly when their requests
  differ.
* `second_reservation_adopts_the_transfer`: the same request reserved twice.
-/

namespace PolyBot.Rebalance

open Proc
open PolyBot.Opportunity (Decimal)

structure UniversalTransferRecord where
  transactionId : Nat
  fromEmail : String
  toEmail : String
  asset : String
  amount : Decimal
  fromAccountType : String
  toAccountType : String
  clientTransactionId : String
  deriving DecidableEq

/-- A record of the withdrawal history, by what its lookup reads. -/
structure WithdrawalRecord where
  id : String
  coin : String
  withdrawOrderId : String
  deriving DecidableEq

/-- The records of a response that carry a key. -/
def matching {α : Type} (key : α → String) (duplicate : String) (response : List α)
    (searched : String) : Except String (List α) := do
  let records := response.filter fun record => key record = searched
  require (records.length ≤ 1) duplicate
  return records

def universalTransferHistory : List UniversalTransferRecord → String →
    Except String (List UniversalTransferRecord) :=
  matching (·.clientTransactionId)
    "Binance returned duplicate universal transfers for one client id"

/-- The same check, of the transfers to the sub-account. -/
def universalTransferHistoryToSubaccount : List UniversalTransferRecord → String →
    Except String (List UniversalTransferRecord) :=
  matching (·.clientTransactionId)
    "Binance returned duplicate universal transfers for one client id"

def matchingWithdrawals (records : List WithdrawalRecord) (coin withdrawOrderId : String) :
    Except String (List WithdrawalRecord) := do
  let found ← matching (·.withdrawOrderId)
    "Binance returned duplicate withdrawals for one client id" records withdrawOrderId
  require (found.all (·.coin = coin) = true) "Binance withdrawal history coin mismatch"
  return found

def pow10 (exponent : Nat) : Except String Nat :=
  orError (checkedNat 256 (10 ^ exponent)) "decimal scale overflow"

def decimalToBaseUnits (value : Decimal) (decimals : Nat) : Except String Nat := do
  require (0 ≤ value.mantissa) "decimal amount is negative"
  let scale ← pow10 decimals
  let numerator ← orError (checkedMul 256 value.mantissa.toNat scale) "decimal base-unit overflow"
  let denominator ← pow10 value.scale
  require (numerator % denominator = 0) "decimal exceeds token precision"
  return numerator / denominator

def validateMasterTransferRecord (operation : RebalanceExecutionOperation)
    (subaccountEmail : String) (record : UniversalTransferRecord) : Except String Unit := do
  require (toAsciiLowercase record.fromEmail = toAsciiLowercase subaccountEmail)
    "Binance master transfer source sub-account changed"
  require (isBlank record.toEmail = false) "Binance master transfer destination is empty"
  require (record.asset = operation.intent.tokenSymbol) "Binance master transfer asset changed"
  require (record.fromAccountType = "SPOT" ∧ record.toAccountType = "SPOT")
    "Binance master transfer account type changed"
  require (record.clientTransactionId = operation.intent.withdrawOrderId)
    "Binance master transfer client id changed"
  let amount ← decimalToBaseUnits record.amount operation.intent.tokenDecimals
  require (amount = operation.intent.amount) "Binance master transfer amount changed"

/-- How `begin_master_transfer` starts: the transfer that the venue holds under the operation's key
is taken over; without one, the transfer is submitted. -/
def existingMasterTransfer (operation : RebalanceExecutionOperation) (subaccountEmail : String)
    (response : List UniversalTransferRecord) : Except String (Option Nat) := do
  let existing ← universalTransferHistory response operation.intent.withdrawOrderId
  match existing.head? with
  | some record =>
    validateMasterTransferRecord operation subaccountEmail record
    return some record.transactionId
  | none => return none

/-! ## Keys -/

/-- What `reserve` accepts is the reservation of its request. -/
theorem reserve_returns {digest : FingerprintFields → B256} {io : AppendLog.Io}
    {request : RebalanceExecutionRequest} {journal : RebalanceExecutionJournal}
    {op : RebalanceExecutionOperation}
    (accepted : ((reserve digest io request).exec journal).1 = .ok op) :
    op = reservation digest journal.nextSequence request := by
  have returns : wp (reserve digest io request)
      (fun op _ => op = reservation digest journal.nextSequence request)
      (fun _ _ => True) journal := by
    simp only [reserve, wp_bind, wp_lift, wp_get, wp_ensure, wp_pure]
    refine ⟨fun _ _ => ⟨fun _ _ => ⟨fun _ => ?_, fun _ => trivial⟩, fun _ _ => trivial⟩,
      fun _ _ => trivial⟩
    exact wp_of_final (P := fun _ => True) trivial
  unfold wp at returns
  split at returns
  · rename_i ran
    rw [ran] at accepted
    cases accepted
    exact returns
  · rename_i ran
    rw [ran] at accepted
    cases accepted

/-- No field of a request is left out of its digest. -/
theorem fingerprintFields_injective : Function.Injective fingerprintFields := by
  rintro ⟨_, _, _, _, _, ⟨_, _, _⟩, _, _, _, _, _⟩ ⟨_, _, _, _, _, ⟨_, _, _⟩, _, _, _, _, _⟩ same
  simp only [fingerprintFields, FingerprintFields.mk.injEq] at same
  simp [same]

/-- A key is found among records under another key only if the keys are one. -/
theorem matching_of_ne {α : Type} {key : α → String} {duplicate submitted searched : String}
    {response : List α} (differ : submitted ≠ searched)
    (owned : ∀ record ∈ response, key record = submitted) :
    matching key duplicate response searched = .ok [] := by
  have none : response.filter (fun record => key record = searched) = [] := by
    refine List.filter_eq_nil_iff.mpr fun record mem found => differ ?_
    rw [← owned record mem]
    exact of_decide_eq_true found
  rw [matching, none]
  rfl

theorem withdrawOrderIdOf_inj {first second : List Char} :
    withdrawOrderIdOf first = withdrawOrderIdOf second ↔ first.take 30 = second.take 30 := by
  rw [withdrawOrderIdOf, withdrawOrderIdOf, String.append_right_inj, String.ofList_inj]

theorem staleMasterReturnClientId_reservation (digest : FingerprintFields → B256)
    (sequence : Nat) (request : RebalanceExecutionRequest) :
    staleMasterReturnClientId (reservation digest sequence request).intent =
      "rc" ++ String.ofList ((requestFingerprint digest request).take 30) := by
  rw [staleMasterReturnClientId, reservation, leading, String.toList_ofList]

/-- The keys of two operations that were accepted tell them apart exactly when their requests
differ, as long as the digests of the two do.  Under equal keys, a transfer of the one is found as a
transfer of the other. -/
theorem keys_differ_iff_requests_differ {digest : FingerprintFields → B256}
    {ioFirst ioSecond : AppendLog.Io} {earlier later : RebalanceExecutionJournal}
    {requestFirst requestSecond : RebalanceExecutionRequest}
    {first second : RebalanceExecutionOperation}
    (acceptedFirst : ((reserve digest ioFirst requestFirst).exec earlier).1 = .ok first)
    (acceptedSecond : ((reserve digest ioSecond requestSecond).exec later).1 = .ok second)
    (collisionFree : (requestFingerprint digest requestFirst).take 30 =
      (requestFingerprint digest requestSecond).take 30 →
        fingerprintFields requestFirst = fingerprintFields requestSecond) :
    (first.intent.withdrawOrderId ≠ second.intent.withdrawOrderId ∧
      staleMasterReturnClientId first.intent ≠ staleMasterReturnClientId second.intent ∧
      (∀ response : List UniversalTransferRecord,
        (∀ record ∈ response, record.clientTransactionId = first.intent.withdrawOrderId) →
        universalTransferHistory response second.intent.withdrawOrderId = .ok []) ∧
      (∀ response : List UniversalTransferRecord,
        (∀ record ∈ response,
          record.clientTransactionId = staleMasterReturnClientId first.intent) →
        universalTransferHistoryToSubaccount response (staleMasterReturnClientId second.intent) =
          .ok []) ∧
      ∀ records : List WithdrawalRecord,
        (∀ record ∈ records, record.withdrawOrderId = first.intent.withdrawOrderId) →
        matchingWithdrawals records second.intent.tokenSymbol second.intent.withdrawOrderId =
          .ok []) ↔
      requestFirst ≠ requestSecond := by
  have reservedFirst := reserve_returns acceptedFirst
  have reservedSecond := reserve_returns acceptedSecond
  subst reservedFirst reservedSecond
  constructor
  · intro distinct same
    subst same
    exact distinct.1 rfl
  · intro differ
    have prefixes : (requestFingerprint digest requestFirst).take 30 ≠
        (requestFingerprint digest requestSecond).take 30 := fun same =>
      differ (fingerprintFields_injective (collisionFree same))
    have orders : (reservation digest earlier.nextSequence requestFirst).intent.withdrawOrderId ≠
        (reservation digest later.nextSequence requestSecond).intent.withdrawOrderId := fun same =>
      prefixes (withdrawOrderIdOf_inj.mp same)
    have returns : staleMasterReturnClientId
          (reservation digest earlier.nextSequence requestFirst).intent ≠
        staleMasterReturnClientId
          (reservation digest later.nextSequence requestSecond).intent := by
      rw [staleMasterReturnClientId_reservation, staleMasterReturnClientId_reservation]
      intro same
      rw [String.append_right_inj, String.ofList_inj] at same
      exact prefixes same
    refine ⟨orders, returns, fun response owned => matching_of_ne orders owned,
      fun response owned => matching_of_ne returns owned, fun records owned => ?_⟩
    rw [matchingWithdrawals, matching_of_ne orders owned]
    rfl

/-- A digest that tells balances apart in its first digits. -/
def balanceDigest (fields : FingerprintFields) : B256 :=
  BitVec.ofNat 256 (fields.binanceBefore * 16 ^ 40)

theorem requests_with_other_balances_have_other_keys :
    ∃ first second : RebalanceExecutionOperation,
      ((reserve balanceDigest sampleIo sampleRequest).exec .fresh).1 = .ok first ∧
      ((reserve balanceDigest sampleIo
        { sampleRequest with binanceBalanceBefore := 90 }).exec .fresh).1 = .ok second ∧
      first.intent.withdrawOrderId ≠ second.intent.withdrawOrderId := by
  have acceptedFirst : ((reserve balanceDigest sampleIo sampleRequest).exec .fresh).1 =
      .ok (reservation balanceDigest 0 sampleRequest) := by decide +kernel
  have acceptedSecond : ((reserve balanceDigest sampleIo
      { sampleRequest with binanceBalanceBefore := 90 }).exec .fresh).1 =
        .ok (reservation balanceDigest 0 { sampleRequest with binanceBalanceBefore := 90 }) := by
    decide +kernel
  have separate := keys_differ_iff_requests_differ acceptedFirst acceptedSecond
    fun same => absurd same (by decide +kernel)
  exact ⟨_, _, acceptedFirst, acceptedSecond, (separate.mpr (by decide)).1⟩

/-- The transfer of the first operation, as the venue has it. -/
def submittedTransfer : UniversalTransferRecord where
  transactionId := 7
  fromEmail := "sub@example.com"
  toEmail := "master@example.com"
  asset := "USDC"
  amount := { mantissa := 10, scale := 6, mantissa_lt := by decide, scale_le := by decide }
  fromAccountType := "SPOT"
  toAccountType := "SPOT"
  clientTransactionId := withdrawOrderIdOf (hexDigits 0)

/-- A transfer is reserved, ends, and is reserved again for the same request.  The second operation
has an id of its own and the keys of the first, and takes the transfer of the first for its own. -/
theorem second_reservation_adopts_the_transfer :
    ∃ first second : RebalanceExecutionOperation,
      ((reserve (fun _ => 0) sampleIo sampleRequest).exec .fresh).1 = .ok first ∧
      ((reserve (fun _ => 0) sampleIo sampleRequest).exec
        (afterCalls (fun _ => 0) sampleIo
          [.reserve sampleRequest, .advance (sampleId 0) (.failed "stopped")])).1 = .ok second ∧
      first.operationId ≠ second.operationId ∧
      first.intent.withdrawOrderId = second.intent.withdrawOrderId ∧
      staleMasterReturnClientId first.intent = staleMasterReturnClientId second.intent ∧
      submittedTransfer.clientTransactionId = first.intent.withdrawOrderId ∧
      existingMasterTransfer second "sub@example.com" [submittedTransfer] = .ok (some 7) :=
  ⟨reservation (fun _ => 0) 0 sampleRequest, reservation (fun _ => 0) 2 sampleRequest,
    by decide +kernel, by decide +kernel, by decide +kernel, rfl, rfl, rfl, by decide +kernel⟩

end PolyBot.Rebalance
