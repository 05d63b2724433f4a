import PolyBot.Dex.MirrorSteps

/-!
# Settlement of the bot's own swaps

The receipt of an own swap proves the events that the stream brings as well.  The engine applies them
from the receipt, the pool's position keeps the stream's copies from being applied again.  Each call
of the engine names the pool whose curves it has made stale.  `settlement` is the receipt's settlement
with the check of the trade's plan before it, `applyArbitrageReceiptSettlement` is without.

* `settlement_commutes_iff`: for an adaptive pool, settling the receipt leaves what the stream alone
  does exactly when the receipt is skipped or comes between the stream's Fee and its Swap.
* `camelot_receipt_fails_around_stream`: before the Fee it makes the stream's own Fee fail, after the
  Swap it fails itself.
-/

namespace PolyBot.Dex

namespace DexMirror

variable (math : UniswapV3Math) (mirror : DexMirror)

/-- Publishes the pool of an applied event when its quotes have to be refreshed. -/
def publish : LogApplyResult → Except String DexMirror
  | .applied index _ true => Prod.snd <$> mirror.refreshPoolForPublication index
  | _ => .ok mirror

/-- A log of the stream, as the engine handles it. -/
def deliver (log : ChainLog) (blockTimestamp : Nat) :
    Except String DexMirror := do
  let (result, next) ← mirror.applyLogAtTimestamp math log blockTimestamp
  next.publish result

/-- The pool that a log of the stream makes stale, and the mirror after it. -/
def delivered (log : ChainLog) (blockTimestamp : Nat) : ChangedPool := do
  let (result, next) ← mirror.applyLogAtTimestamp math log blockTimestamp
  let published ← next.publish result
  match result with
  | .applied index _ true => return (some index, published)
  | _ => return (none, published)

/-- A head, with the pool whose fee it moves. -/
def headed (head : CanonicalBlock) (timestamp : Nat) : ChangedPool := do
  let (applied, next) ← mirror.applyHeadAt head (some timestamp)
  return (applied.refreshPoolIndex, next)

/-- The adaptive pool that a receipt's Swap belongs to. -/
def adaptiveLocator (address : Address) : Option PoolLocator :=
  if mirror.hasPool (.camelotV3 address) then some (.camelotV3 address)
  else if mirror.hasPool (.lynexAlgebraV19 address) then some (.lynexAlgebraV19 address)
  else none

def decodeTarget (target : ChainLog) : Except String (Option DecodedPoolEvent) :=
  match mirror.adaptiveLocator target.address with
  | some locator => decodePoolEventForLocator target locator
  | none => decodePoolEvent target

/-- The Swap of a receipt. -/
def decodeSettlement (target : ChainLog) : Except String DecodedPoolEvent := do
  let decoded ← mirror.decodeTarget target
  let event ← orError decoded "receipt settlement log is not a recognized pool event"
  require (event.update.isSwap = true) "receipt settlement log is not a Swap event"
  return event

/-- The Fee of a receipt, applied to its provider's pool. -/
def applyReceiptFee (locator : PoolLocator) (fee : AdaptiveFeeReceiptProof) (timestamp : Nat) :
    AppliedLog :=
  match locator, fee with
  | .camelotV3 _, .camelot pool zeroForOne oneForZero position blockHash =>
    mirror.applyCamelotFeeReceipt pool zeroForOne oneForZero position blockHash timestamp
  | .lynexAlgebraV19 _, .lynexAlgebraV19 pool fee position blockHash =>
    mirror.applyLynexFeeReceipt pool fee position blockHash timestamp
  | _, _ => .error "adaptive Algebra receipt Fee proof belongs to another provider"

/-- A receipt's Fee has to be new to the settled pool, or a copy. -/
def checkReceiptFee (poolIndex : Nat) : LogApplyResult → Except String Unit
  | .applied index .fee false =>
    require (index = poolIndex) "receipt settlement Fee applied another pool"
  | .duplicate => .ok ()
  | .applied _ _ _ => .error "adaptive Algebra receipt Fee produced an invalid apply result"
  | .unknown => .error "adaptive Algebra receipt Fee targets an unknown pool"

/-- What follows the Swap of a receipt: a new one makes its pool stale. -/
def finishSettlement (poolIndex : Nat) : LogApplyResult → ChangedPool
  | .applied index _ _ => do
    require (index = poolIndex) "receipt settlement applied another pool"
    let (_, next) ← mirror.refreshPoolForPublication poolIndex
    return (some poolIndex, next)
  | .duplicate => .ok (none, mirror)
  | .unknown => .error "receipt settlement Swap targets an unknown pool"

/-- The Fee and the Swap of a receipt, at the canonical timestamp of their block. -/
def settleFeeAndSwap (locator : PoolLocator) (poolIndex : Nat) (target : ChainLog)
    (fee : AdaptiveFeeReceiptProof) (timestamp : Nat) : ChangedPool := do
  let (feeResult, mirror) ← mirror.applyReceiptFee locator fee timestamp
  checkReceiptFee poolIndex feeResult
  let (swapResult, mirror) ← mirror.applyLogAtTimestamp math target timestamp
  mirror.finishSettlement poolIndex swapResult

/-- The settlement of an adaptive pool; without the Fee or a canonical timestamp it is left to the
stream. -/
def settleAdaptive (locator : PoolLocator) (poolIndex : Nat) (target : ChainLog) :
    Option AdaptiveFeeReceiptProof → ChangedPool
  | none => .ok (none, mirror)
  | some fee => do
    require (fee.pool = target.address ∧ fee.position.blockNumber = target.blockNumber ∧
        fee.blockHash = target.blockHash ∧
        fee.position.transactionIndex = target.transactionIndex ∧
        fee.position.logIndex < target.logIndex)
      "adaptive Algebra receipt Fee is not positionally before Swap"
    match mirror.canonicalTimestampForLog target with
    | none => return (none, mirror)
    | some timestamp => mirror.settleFeeAndSwap math locator poolIndex target fee timestamp

def settleStatic (poolIndex : Nat) (target : ChainLog) (fee : Option AdaptiveFeeReceiptProof) :
    ChangedPool := do
  require (fee.isNone = true) "static-fee receipt unexpectedly carries an adaptive Algebra Fee"
  let (result, next) ← mirror.applyStaticFeeReceiptLog math target
  next.finishSettlement poolIndex result

/-- The settlement of a receipt that targets the pool. -/
def settlePool (poolIndex : Nat) (target : ChainLog) (fee : Option AdaptiveFeeReceiptProof) :
    ChangedPool :=
  if target.blockNumber ≤ mirror.backfilledThrough then .ok (none, mirror)
  else
    match mirror.adaptiveLocator target.address with
    | some locator => mirror.settleAdaptive math locator poolIndex target fee
    | none => mirror.settleStatic math poolIndex target fee

def applyArbitrageReceiptSettlement (target : ChainLog) (fee : Option AdaptiveFeeReceiptProof) :
    Except String DexMirror := do
  require (target.removed = false) "receipt settlement Swap event is removed"
  let event ← mirror.decodeSettlement target
  let poolIndex ← orError (mirror.poolIndex event.locator)
    "settlement proof targets an unknown pool"
  Prod.snd <$> mirror.settlePool math poolIndex target fee

/-- `admitted` is the pool that the plan of the trade was admitted on, if it is known; after a restart
it need not be. -/
def settlement (target : ChainLog) (fee : Option AdaptiveFeeReceiptProof) (admitted : Option Nat)
    (resumedAfterRestart : Bool) : ChangedPool := do
  require (target.removed = false) "receipt settlement Swap event is removed"
  require (admitted.isSome = true ∨ resumedAfterRestart = true)
    "settlement proof has no admitted plan freshness"
  let event ← mirror.decodeSettlement target
  let poolIndex ← orError (mirror.poolIndex event.locator)
    "settlement proof targets an unknown pool"
  require (∀ index ∈ admitted, poolIndex = index)
    "settlement proof pool differs from the admitted pool"
  mirror.settlePool math poolIndex target fee

end DexMirror

/-- Where the receipt's settlement falls among the stream's Fee and Swap. -/
inductive Placement
  | before
  | between
  | after
  deriving DecidableEq

/-- The events of one own trade on an adaptive pool, as the stream and as the receipt have them. -/
structure OwnTrade where
  fee : AdaptiveFeeReceiptProof
  feeLog : ChainLog
  swapLog : ChainLog

namespace OwnTrade

variable (math : UniswapV3Math) (mirror : DexMirror)

/-- The stream alone. -/
def streamed (trade : OwnTrade) (mirror : DexMirror) (timestamp : Nat) : Except String DexMirror := do
  let next ← mirror.deliver math trade.feeLog timestamp
  next.deliver math trade.swapLog timestamp

def settle (trade : OwnTrade) (mirror : DexMirror) : Except String DexMirror :=
  mirror.applyArbitrageReceiptSettlement math trade.swapLog (some trade.fee)

/-- The stream with the settlement at its place. -/
def settled (trade : OwnTrade) (mirror : DexMirror) (timestamp : Nat) :
    Placement → Except String DexMirror
  | .before => do
    let next ← trade.settle math mirror
    trade.streamed math next timestamp
  | .between => do
    let next ← mirror.deliver math trade.feeLog timestamp
    let next ← trade.settle math next
    next.deliver math trade.swapLog timestamp
  | .after => do
    let next ← trade.streamed math mirror timestamp
    trade.settle math next

/-- The two events are those of one transaction on the mirrored pool `locator`: the stream decodes
them as a Fee and a later Swap, and the receipt proves the same Fee. -/
structure On (trade : OwnTrade) (locator : PoolLocator) (mirror : DexMirror) : Prop where
  adaptive : locator.isAdaptive = true
  routed : mirror.locatorHint trade.swapLog.address = some locator
  samePool : trade.feeLog.address = trade.swapLog.address
  sameBlock : trade.feeLog.blockNumber = trade.swapLog.blockNumber
  sameHash : trade.feeLog.blockHash = trade.swapLog.blockHash
  sameTransaction : trade.feeLog.transactionIndex = trade.swapLog.transactionIndex
  feeFirst : trade.feeLog.logIndex < trade.swapLog.logIndex
  decodesFee : ∃ zeroForOne oneForZero,
    mirror.decode trade.feeLog = .ok (some ⟨locator, .fee zeroForOne oneForZero⟩)
  decodesSwap : ∃ sqrtPriceX96 tick liquidity feePips,
    mirror.decode trade.swapLog = .ok (some ⟨locator, .swap sqrtPriceX96 tick liquidity feePips⟩)
  proves : ∀ zeroForOne oneForZero,
    mirror.decode trade.feeLog = .ok (some ⟨locator, .fee zeroForOne oneForZero⟩) →
    trade.fee = .camelot trade.feeLog.address zeroForOne oneForZero trade.feeLog.position
        trade.feeLog.blockHash ∧ locator.isLynex = false ∨
      trade.fee = .lynexAlgebraV19 trade.feeLog.address zeroForOne trade.feeLog.position
        trade.feeLog.blockHash ∧ locator.isLynex = true

/-- The two mirrors have the pool with the same head, the same fee state and the same last position. -/
structure SamePool (locator : PoolLocator) (a b : DexMirror) : Prop where
  head : (a.locate locator).map (fun (_, hydrated) =>
      (hydrated.pool.sqrtPriceX96, hydrated.pool.tick, hydrated.pool.liquidity)) =
    (b.locate locator).map fun (_, hydrated) =>
      (hydrated.pool.sqrtPriceX96, hydrated.pool.tick, hydrated.pool.liquidity)
  camelotFee : (a.locate locator).map (fun (_, hydrated) => hydrated.camelotFee.map HydratedFee.state) =
    (b.locate locator).map fun (_, hydrated) => hydrated.camelotFee.map HydratedFee.state
  lynexFee : (a.locate locator).map (fun (_, hydrated) => hydrated.lynexFee.map HydratedFee.state) =
    (b.locate locator).map fun (_, hydrated) => hydrated.lynexFee.map HydratedFee.state
  lastPosition : a.lastPositions locator = b.lastPositions locator

end OwnTrade

/-! ## Routing -/

variable {math : UniswapV3Math} {mirror next : DexMirror} {locator : PoolLocator} {log : ChainLog}
  {event : DecodedPoolEvent} {timestamp : Nat}

theorem requireShape_eq_ok {topics bytes : Nat} {topicError dataError : String} {u : Unit} :
    requireShape log topics bytes topicError dataError = .ok u ↔
      log.topics.length = topics ∧ log.data.length = bytes := by
  simp [requireShape, bind_eq_ok, require_eq_ok]

/-- The stream's decoder for Camelot pools differs from the general one only in error texts. -/
theorem decodePoolEventForLocator_of_camelot
    (decoded : decodeCamelotPoolEvent log log.address = .ok (some event)) :
    decodePoolEventForLocator log (.camelotV3 log.address) = .ok (some event) := by
  simp only [decodeCamelotPoolEvent, bind_eq_ok, require_eq_ok] at decoded
  obtain ⟨_, _, decoded⟩ := decoded
  split at decoded
  · rename_i isSwap
    simp only [bind_eq_ok, requireShape_eq_ok, pure_eq_ok, Option.some.injEq] at decoded
    obtain ⟨_, shape, update, head, rfl⟩ := decoded
    have hinted : isAdaptiveHint (some (.camelotV3 log.address)) log.address = true := by
      simp [isAdaptiveHint]
    simp only [decodePoolEventForLocator, decodePoolEventWithLocator, isSwap, decodeSignature,
      if_true, decodeV3Swap, hinted, map_eq_ok, bind_eq_ok, requireShape_eq_ok, pure_eq_ok]
    exact ⟨_, ⟨(), shape, update, head, rfl⟩, rfl⟩
  · exact decoded

namespace DexMirror

/-- An address that is routed to an adaptive pool is that pool's own. -/
theorem routed_adaptive {address : Address} (routed : mirror.locatorHint address = some locator)
    (adaptive : locator.isAdaptive = true) :
    mirror.hasPool locator = true ∧ mirror.adaptiveLocator address = some locator ∧
      (locator = .camelotV3 address ∨ locator = .lynexAlgebraV19 address) := by
  have has : mirror.hasPool locator = true := List.find?_some routed
  have mem := List.mem_of_find?_eq_some routed
  simp only [List.mem_cons, List.not_mem_nil, or_false] at mem
  refine ⟨has, ?_⟩
  rcases mem with rfl | rfl | rfl | rfl
  · cases adaptive
  · cases adaptive
  · simp [adaptiveLocator, has]
  · -- Camelot comes first in the routing, so an address routed to Lynex has no Camelot pool
    have noCamelot : mirror.hasPool (.camelotV3 address) = false := by
      by_contra camelot
      rw [Bool.not_eq_false] at camelot
      simp only [locatorHint, List.find?_cons, camelot] at routed
      split at routed
      · cases routed
      · split at routed
        · cases routed
        · cases routed
    simp [adaptiveLocator, has, noCamelot]

/-- The receipt's Swap is decoded as the stream decodes it. -/
theorem decodeSettlement_eq (routed : mirror.locatorHint log.address = some locator)
    (adaptive : locator.isAdaptive = true) (decoded : mirror.decode log = .ok (some event))
    (isSwap : event.update.isSwap = true) : mirror.decodeSettlement log = .ok event := by
  obtain ⟨_, adaptiveAt, locatorIs⟩ := routed_adaptive routed adaptive
  have target : mirror.decodeTarget log = .ok (some event) := by
    simp only [decodeTarget, adaptiveAt]
    rcases locatorIs with rfl | rfl
    · simp only [decode, routed] at decoded
      exact decodePoolEventForLocator_of_camelot decoded
    · simp only [decode, routed, decodeLynexAlgebraV19PoolEvent, bind_eq_ok, require_eq_ok]
        at decoded
      obtain ⟨_, _, decoded⟩ := decoded
      exact decoded
  simp only [decodeSettlement, bind_eq_ok, orError_eq_ok, require_eq_ok, pure_eq_ok]
  exact ⟨some event, target, event, rfl, (), isSwap, rfl⟩

/-! ## Logs of the stream -/

theorem publish_spec {result : LogApplyResult} (published : mirror.publish result = .ok next) :
    SameFrame next mirror ∧ next.lastPositions = mirror.lastPositions ∧
      next.lastBlockHashes = mirror.lastBlockHashes := by
  unfold publish at published
  split at published
  · simp only [map_eq_ok] at published
    obtain ⟨⟨_, _⟩, refreshed, rfl⟩ := published
    exact refreshPoolForPublication_spec refreshed
  · cases published
    exact ⟨SameFrame.refl _, rfl, rfl⟩

theorem deliver_accepted (delivered : mirror.deliver math log timestamp = .ok next) :
    log.removed = false ∧ mirror.requireLogHead log .canonicalStream = .ok () := by
  simp only [deliver, applyLogAtTimestamp, applyLogInner, bind_eq_ok, require_eq_ok] at delivered
  obtain ⟨_, ⟨_, kept, _, head, _⟩, _⟩ := delivered
  exact ⟨kept, head⟩

section

variable (decoded : mirror.decode log = .ok (some event))
include decoded

/-- A log of an adaptive pool that is applied is its last one: it was the last before, or it is new. -/
theorem applied_last {result : LogApplyResult}
    (adaptive : event.locator.isAdaptive = true) (known : mirror.hasPool event.locator = true)
    (later : mirror.backfilledThrough < log.blockNumber)
    (applied : mirror.applyLogAtTimestamp math log timestamp = .ok (result, next)) :
    SameFrame next mirror ∧ next.lastPositions event.locator = some log.position ∧
      next.lastBlockHashes event.locator = some log.blockHash ∧
      ∀ last, mirror.lastPositions event.locator = some last → ¬log.position < last := by
  obtain ⟨_, _, hydrated | ⟨_, _, copy | new⟩⟩ := applyLogInner_cases decoded applied
  · omega
  · obtain ⟨duplicate, _, rfl⟩ := copy
    obtain ⟨last, lastIs, ⟨rfl, hash⟩ | ⟨_, static⟩⟩ := isDuplicate_eq_true.mp duplicate
    · refine ⟨SameFrame.refl _, lastIs, hash adaptive, fun other otherIs => ?_⟩
      rw [lastIs] at otherIs
      cases otherIs
      exact LogPosition.lt_irrefl _
    · rw [adaptive] at static
      cases static
  · obtain ⟨fresh, appliedNew⟩ := new
    obtain ⟨index, hydrated, located⟩ := exists_locate known
    have frame := applyNew_frame appliedNew
    obtain ⟨updated, pending, refresh, _, _, rfl⟩ := applyNew_spec located appliedNew
    refine ⟨frame, Function.update_self .., Function.update_self .., fun last lastIs => ?_⟩
    exact LogPosition.lt_asymm (isDuplicate_eq_false.mp fresh last lastIs)

theorem deliver_frame
    (delivered : mirror.deliver math log timestamp = .ok next) : SameFrame next mirror := by
  simp only [deliver, bind_eq_ok] at delivered
  obtain ⟨⟨result, applied⟩, appliedLog, published⟩ := delivered
  obtain ⟨frame, _, _⟩ := publish_spec published
  obtain ⟨_, _, ⟨_, _, rfl⟩ | ⟨_, _, ⟨_, _, rfl⟩ | ⟨_, new⟩⟩⟩ :=
    applyLogInner_cases decoded appliedLog
  · exact frame
  · exact frame
  · exact frame.trans (applyNew_frame new)

theorem deliver_spec
    (adaptive : event.locator.isAdaptive = true) (known : mirror.hasPool event.locator = true)
    (later : mirror.backfilledThrough < log.blockNumber)
    (delivered : mirror.deliver math log timestamp = .ok next) :
    next.lastPositions event.locator = some log.position ∧
      next.lastBlockHashes event.locator = some log.blockHash ∧
      ∀ last, mirror.lastPositions event.locator = some last → ¬log.position < last := by
  simp only [deliver, bind_eq_ok] at delivered
  obtain ⟨⟨result, applied⟩, appliedLog, published⟩ := delivered
  obtain ⟨_, positions, hashes⟩ := publish_spec published
  rw [positions, hashes]
  exact (applied_last decoded adaptive known later appliedLog).2

end

end DexMirror

namespace HydratedPool

/-- A Swap always asks for new quotes. -/
theorem applyUpdate_swap_refresh {math : UniswapV3Math} {hydrated next : HydratedPool}
    {locator : PoolLocator} {log : ChainLog} {blockTimestamp : Option Nat}
    {pending pending' : Option PendingAdaptiveFee} {refresh : Bool} {update : PoolUpdate}
    (isSwap : update.isSwap = true)
    (applied : hydrated.applyUpdate math locator log blockTimestamp pending update =
      .ok (next, pending', refresh)) : refresh = true := by
  cases update with
  | swap sqrtPriceX96 tick liquidity feePips =>
    simp only [applyUpdate, bind_eq_ok] at applied
    obtain ⟨_, _, applied⟩ := applied
    split at applied
    all_goals
      simp only [bind_eq_ok, pure_eq_ok, Prod.mk.injEq] at applied
      obtain ⟨_, _, _, _, rfl⟩ := applied
      rfl
  | liquidity | fee | tickSpacing | incentive => cases isSwap

end HydratedPool

namespace DexMirror

/-- A delivered Swap that is new: what the settlement of the same Swap does too. -/
theorem deliver_swap_new (decoded : mirror.decode log = .ok (some event))
    (isSwap : event.update.isSwap = true) (known : mirror.hasPool event.locator = true)
    (later : mirror.backfilledThrough < log.blockNumber) {last : LogPosition}
    (lastIs : mirror.lastPositions event.locator = some last) (newer : last < log.position)
    (delivered : mirror.deliver math log timestamp = .ok next) :
    ∃ index applied,
      mirror.poolIndex event.locator = some index ∧
      mirror.applyLogAtTimestamp math log timestamp =
        .ok (.applied index event.kind true, applied) ∧
      applied.finishSettlement index (.applied index event.kind true) = .ok (some index, next) := by
  simp only [deliver, bind_eq_ok] at delivered
  obtain ⟨⟨result, applied⟩, appliedLog, published⟩ := delivered
  obtain ⟨_, _, hydrated | ⟨_, _, copy | new⟩⟩ := applyLogInner_cases decoded appliedLog
  · omega
  · obtain ⟨duplicate, _, _⟩ := copy
    obtain ⟨recorded, recordedIs, stands⟩ := isDuplicate_eq_true.mp duplicate
    rw [lastIs] at recordedIs
    cases recordedIs
    rcases stands with ⟨rfl, _⟩ | ⟨older, _⟩
    · exact absurd newer (LogPosition.lt_irrefl _)
    · exact absurd older (LogPosition.lt_asymm newer)
  · obtain ⟨_, appliedNew⟩ := new
    obtain ⟨index, hydrated, located⟩ := exists_locate known
    obtain ⟨indexed, _, _⟩ := locate_eq_some located
    obtain ⟨updated, pending, refresh, updates, rfl, rfl⟩ := applyNew_spec located appliedNew
    have refreshes := HydratedPool.applyUpdate_swap_refresh isSwap updates
    subst refreshes
    refine ⟨index, _, indexed, appliedLog, ?_⟩
    obtain ⟨refreshed, refreshes, rfl⟩ := map_eq_ok.mp published
    simp only [finishSettlement, bind_eq_ok, require_eq_ok]
    exact ⟨(), trivial, refreshed, refreshes, rfl⟩

/-! ## The receipt -/

variable {blockHash : B256} {emitted : DirectionalFees} {position : LogPosition}
  {result : LogApplyResult}

/-- A receipt's Fee that is accepted stands at the last position of its pool or after it. -/
theorem applyFeeReceipt_spec (known : mirror.hasPool locator = true)
    (later : mirror.backfilledThrough < position.blockNumber)
    (applied : mirror.applyFeeReceipt locator position blockHash emitted timestamp =
      .ok (result, next)) :
    SameFrame next mirror ∧
      ∀ last, mirror.lastPositions locator = some last → ¬position < last := by
  obtain ⟨index, hydrated, located⟩ := exists_locate known
  obtain ⟨_, stored, _⟩ := locate_eq_some located
  simp only [applyFeeReceipt, located, bind_eq_ok] at applied
  obtain ⟨_, _, applied⟩ := applied
  rw [if_neg (Nat.not_le.mpr later)] at applied
  simp only [bind_eq_ok] at applied
  obtain ⟨duplicate, stands, applied⟩ := applied
  have notOlder : ∀ last, mirror.lastPositions locator = some last → ¬position < last := by
    intro last lastIs
    simp only [isDuplicateFee, lastIs] at stands
    split at stands
    · rename_i same
      subst same
      exact LogPosition.lt_irrefl _
    · simp only [bind_eq_ok, require_eq_ok] at stands
      obtain ⟨_, newer, _⟩ := stands
      exact LogPosition.lt_asymm newer
  refine ⟨?_, notOlder⟩
  split at applied
  · cases applied
    exact SameFrame.refl _
  · simp only [applyNewFee, bind_eq_ok, require_eq_ok, pure_eq_ok, Prod.mk.injEq] at applied
    obtain ⟨_, _, updated, installed, _, rfl⟩ := applied
    exact record_frame stored (HydratedPool.applyFeeTimepoint_identity installed) _ _ _

/-- A copy of the pool's last Fee changes nothing. -/
theorem applyFeeReceipt_copy (known : mirror.hasPool locator = true)
    (head : ∀ early changed, mirror.requireHead position.blockNumber blockHash early changed = .ok ())
    (last : mirror.lastPositions locator = some position)
    (hash : mirror.lastBlockHashes locator = some blockHash) :
    mirror.applyFeeReceipt locator position blockHash emitted timestamp =
      .ok (.duplicate, mirror) := by
  obtain ⟨index, hydrated, located⟩ := exists_locate known
  have copy : mirror.isDuplicateFee locator position blockHash = .ok true := by
    simp only [isDuplicateFee, last, if_true, bind_eq_ok, require_eq_ok]
    exact ⟨(), hash, rfl⟩
  simp only [applyFeeReceipt, located, bind_eq_ok]
  refine ⟨(), head _ _, ?_⟩
  split
  · rfl
  · simp only [bind_eq_ok]
    exact ⟨true, copy, rfl⟩

theorem finishSettlement_spec {index : Nat} {stale : Option Nat}
    (finished : mirror.finishSettlement index result = .ok (stale, next)) :
    SameFrame next mirror ∧ next.lastPositions = mirror.lastPositions := by
  unfold finishSettlement at finished
  split at finished
  · simp only [bind_eq_ok, pure_eq_ok, Prod.mk.injEq] at finished
    obtain ⟨_, _, ⟨_, _⟩, refreshed, _, rfl⟩ := finished
    obtain ⟨frame, positions, _⟩ := refreshPoolForPublication_spec refreshed
    exact ⟨frame, positions⟩
  · cases finished
    exact ⟨SameFrame.refl _, rfl⟩
  · cases finished

/-- The head that a canonical log was accepted against accepts its block from a receipt too. -/
theorem requireHead_of_log (accepted : mirror.requireLogHead log .canonicalStream = .ok ())
    (early changed : String) :
    mirror.requireHead log.blockNumber log.blockHash early changed = .ok () := by
  simp only [requireLogHead, requireHead, bind_eq_ok, require_eq_ok] at accepted ⊢
  obtain ⟨_, notEarly, unchanged⟩ := accepted
  exact ⟨(), notEarly, unchanged⟩

end DexMirror

namespace OwnTrade

open DexMirror

variable {trade : OwnTrade}

section

variable (on : trade.On locator mirror)
include on

theorem On.of_frame (same : SameFrame next mirror) : trade.On locator next := by
  refine ⟨on.adaptive, ?_, on.samePool, on.sameBlock, on.sameHash, on.sameTransaction, on.feeFirst,
    ?_, ?_, ?_⟩
  · rw [locatorHint_congr same.identities]
    exact on.routed
  · rw [decode_congr same.identities]
    exact on.decodesFee
  · rw [decode_congr same.identities]
    exact on.decodesSwap
  · rw [decode_congr same.identities]
    exact on.proves

theorem On.known : mirror.hasPool locator = true :=
  (routed_adaptive on.routed on.adaptive).1

theorem On.fee_lt_swap : trade.feeLog.position < trade.swapLog.position :=
  Or.inr ⟨on.sameBlock, Or.inr ⟨on.sameTransaction, on.feeFirst⟩⟩

/-- The proof goes to the pool that the stream's Fee goes to, with the same position. -/
theorem On.applyReceiptFee_eq (other : DexMirror) (timestamp : Nat) :
    ∃ emitted, other.applyReceiptFee locator trade.fee timestamp =
      other.applyFeeReceipt locator trade.feeLog.position trade.feeLog.blockHash emitted
        timestamp := by
  obtain ⟨_, _, locatorIs⟩ := routed_adaptive on.routed on.adaptive
  obtain ⟨zeroForOne, oneForZero, decoded⟩ := on.decodesFee
  rcases on.proves zeroForOne oneForZero decoded with ⟨proof, notLynex⟩ | ⟨proof, lynex⟩
  · rcases locatorIs with rfl | rfl
    · rw [proof, ← on.samePool]
      exact ⟨_, rfl⟩
    · cases notLynex
  · rcases locatorIs with rfl | rfl
    · cases lynex
    · rw [proof, ← on.samePool]
      exact ⟨_, rfl⟩

/-- The receipt's Fee is before its Swap, as the settlement asks. -/
theorem On.linked :
    trade.fee.pool = trade.swapLog.address ∧
      trade.fee.position.blockNumber = trade.swapLog.blockNumber ∧
      trade.fee.blockHash = trade.swapLog.blockHash ∧
      trade.fee.position.transactionIndex = trade.swapLog.transactionIndex ∧
      trade.fee.position.logIndex < trade.swapLog.logIndex := by
  obtain ⟨zeroForOne, oneForZero, decoded⟩ := on.decodesFee
  rcases on.proves zeroForOne oneForZero decoded with ⟨proof, _⟩ | ⟨proof, _⟩
  all_goals
    rw [proof]
    exact ⟨on.samePool, on.sameBlock, on.sameHash, on.sameTransaction, on.feeFirst⟩

section

variable (kept : trade.swapLog.removed = false)
include kept

/-- The settlement of an own trade: skipped, or its Fee and its Swap at the cached timestamp. -/
theorem On.settle_eq {index : Nat}
    (indexed : mirror.poolIndex locator = some index) :
    trade.settle math mirror =
      if trade.swapLog.blockNumber ≤ mirror.backfilledThrough then .ok mirror
      else match mirror.canonicalTimestampForLog trade.swapLog with
        | none => .ok mirror
        | some timestamp => Prod.snd <$>
          mirror.settleFeeAndSwap math locator index trade.swapLog trade.fee timestamp := by
  obtain ⟨_, adaptiveAt, _⟩ := routed_adaptive on.routed on.adaptive
  obtain ⟨sqrtPriceX96, tick, liquidity, feePips, decoded⟩ := on.decodesSwap
  have target := decodeSettlement_eq on.routed on.adaptive decoded rfl
  simp only [settle, applyArbitrageReceiptSettlement, require_of kept, target, indexed, orError,
    ok_bind, settlePool, adaptiveAt, settleAdaptive, require_of on.linked]
  split
  · rfl
  · cases mirror.canonicalTimestampForLog trade.swapLog <;> rfl

/-- A settlement of a hydrated block, or of one whose timestamp is not cached, does nothing. -/
theorem On.settle_skipped
    (skipped : trade.swapLog.blockNumber ≤ mirror.backfilledThrough ∨
      mirror.canonicalTimestampForLog trade.swapLog = none) :
    trade.settle math mirror = .ok mirror := by
  obtain ⟨index, hydrated, located⟩ := exists_locate on.known
  obtain ⟨indexed, _, _⟩ := locate_eq_some located
  rw [on.settle_eq kept indexed]
  rcases skipped with hydrated | missing
  · rw [if_pos hydrated]
  · rw [missing]
    split <;> rfl

/-- A settlement that is accepted and not skipped leaves the Swap as the last event, and did not find
the pool past the Fee. -/
theorem On.settle_spec
    (later : mirror.backfilledThrough < trade.swapLog.blockNumber)
    (cached : mirror.canonicalTimestampForLog trade.swapLog = some timestamp)
    (settled : trade.settle math mirror = .ok next) :
    SameFrame next mirror ∧ next.lastPositions locator = some trade.swapLog.position ∧
      ∀ last, mirror.lastPositions locator = some last → ¬trade.feeLog.position < last := by
  obtain ⟨index, hydrated, located⟩ := exists_locate on.known
  obtain ⟨indexed, _, _⟩ := locate_eq_some located
  rw [on.settle_eq kept indexed, if_neg (Nat.not_le.mpr later), cached] at settled
  obtain ⟨emitted, receiptFee⟩ := on.applyReceiptFee_eq mirror timestamp
  simp only [settleFeeAndSwap, receiptFee, bind_eq_ok, map_eq_ok] at settled
  obtain ⟨⟨_, _⟩, ⟨⟨feeResult, afterFee⟩, appliedFee, _, _, ⟨swapResult, afterSwap⟩, appliedSwap,
    finished⟩, rfl⟩ := settled
  obtain ⟨feeFrame, notOlder⟩ :=
    applyFeeReceipt_spec on.known (later.trans_eq on.sameBlock.symm) appliedFee
  have onAfter := on.of_frame feeFrame
  obtain ⟨sqrtPriceX96, tick, liquidity, feePips, decoded⟩ := onAfter.decodesSwap
  obtain ⟨swapFrame, swapPosition, _⟩ := applied_last decoded on.adaptive onAfter.known
    (feeFrame.backfilledThrough.trans_lt later) appliedSwap
  obtain ⟨finishedFrame, finishedPositions⟩ := finishSettlement_spec finished
  refine ⟨finishedFrame.trans (swapFrame.trans feeFrame), ?_, notOlder⟩
  rw [finishedPositions]
  exact swapPosition

end

end

theorem SamePool.refl (locator : PoolLocator) (mirror : DexMirror) : SamePool locator mirror mirror :=
  ⟨rfl, rfl, rfl, rfl⟩

/-- Once the Swap is the pool's last event, the stream's Fee can no longer be delivered. -/
theorem On.deliver_fee_error (on : trade.On locator mirror)
    (later : mirror.backfilledThrough < trade.swapLog.blockNumber)
    (last : mirror.lastPositions locator = some trade.swapLog.position) (result : DexMirror) :
    mirror.deliver math trade.feeLog timestamp ≠ .ok result := by
  intro delivered
  obtain ⟨zeroForOne, oneForZero, decoded⟩ := on.decodesFee
  rw [← on.sameBlock] at later
  obtain ⟨_, _, notOlder⟩ := deliver_spec decoded on.adaptive on.known later delivered
  exact notOlder _ last on.fee_lt_swap

/-- Between the stream's Fee and its Swap, the settlement does what the stream's Swap would do, and
that Swap is then a copy. -/
theorem On.settle_between (on : trade.On locator mirror)
    (later : mirror.backfilledThrough < trade.swapLog.blockNumber)
    (cached : mirror.canonicalTimestampForLog trade.swapLog = some timestamp)
    (head : mirror.requireLogHead trade.feeLog .canonicalStream = .ok ())
    (last : mirror.lastPositions locator = some trade.feeLog.position)
    (hash : mirror.lastBlockHashes locator = some trade.feeLog.blockHash)
    (delivered : mirror.deliver math trade.swapLog timestamp = .ok next) :
    trade.settle math mirror = .ok next ∧ next.deliver math trade.swapLog timestamp = .ok next := by
  obtain ⟨sqrtPriceX96, tick, liquidity, feePips, decoded⟩ := on.decodesSwap
  obtain ⟨kept, swapHead⟩ := deliver_accepted delivered
  obtain ⟨index, applied, indexed, appliedSwap, finished⟩ :=
    deliver_swap_new decoded rfl on.known later last on.fee_lt_swap delivered
  constructor
  · obtain ⟨emitted, receiptFee⟩ := on.applyReceiptFee_eq mirror timestamp
    have copy : mirror.applyFeeReceipt locator trade.feeLog.position trade.feeLog.blockHash emitted
        timestamp = .ok (.duplicate, mirror) :=
      applyFeeReceipt_copy on.known (requireHead_of_log head) last hash
    rw [on.settle_eq kept indexed, if_neg (Nat.not_le.mpr later), cached]
    simp only [settleFeeAndSwap, receiptFee, copy, checkReceiptFee, appliedSwap, ok_bind, finished]
    rfl
  · have frame := deliver_frame decoded delivered
    obtain ⟨swapLast, swapHash, _⟩ := deliver_spec decoded on.adaptive on.known later delivered
    have decodedAfter := decoded
    rw [← decode_congr frame.identities] at decodedAfter
    have headAfter := (frame.requireHead _ _ _ _).trans swapHead
    have again : next.applyLogAtTimestamp math trade.swapLog timestamp = .ok (.duplicate, next) :=
      applyLogInner_copy decodedAfter kept headAfter swapLast swapHash
    simp only [deliver, again, ok_bind]
    rfl

end OwnTrade

open DexMirror OwnTrade in
/-- Receipt and stream commute for an own trade on an adaptive pool exactly when the receipt is
skipped or its settlement falls between the stream's Fee and Swap. -/
theorem settlement_commutes_iff (math : UniswapV3Math) (trade : OwnTrade) (locator : PoolLocator)
    (mirror final : DexMirror) (timestamp : Nat) (on : trade.On locator mirror)
    (stamped : ∀ cached, mirror.canonicalTimestampForLog trade.swapLog = some cached →
      cached = timestamp)
    (alone : trade.streamed math mirror timestamp = .ok final) (placement : Placement) :
    (∃ settled, trade.settled math mirror timestamp placement = .ok settled ∧
        SamePool locator settled final) ↔
      placement = .between ∨ trade.swapLog.blockNumber ≤ mirror.backfilledThrough ∨
        mirror.canonicalTimestampForLog trade.swapLog = none := by
  obtain ⟨middle, deliveredFee, deliveredSwap⟩ := bind_eq_ok.mp alone
  obtain ⟨zeroForOne, oneForZero, decodedFee⟩ := on.decodesFee
  have feeFrame := deliver_frame decodedFee deliveredFee
  have onMiddle := on.of_frame feeFrame
  obtain ⟨_, _, _, _, decodedSwap⟩ := onMiddle.decodesSwap
  have swapFrame := deliver_frame decodedSwap deliveredSwap
  have onFinal := onMiddle.of_frame swapFrame
  obtain ⟨kept, _⟩ := deliver_accepted deliveredSwap
  have frame := swapFrame.trans feeFrame
  by_cases skipped : trade.swapLog.blockNumber ≤ mirror.backfilledThrough ∨
      mirror.canonicalTimestampForLog trade.swapLog = none
  · -- a skipped settlement leaves the mirror wherever it falls
    refine iff_of_true ⟨final, ?_, SamePool.refl locator final⟩ (Or.inr skipped)
    cases placement with
    | before =>
      rw [OwnTrade.settled, on.settle_skipped kept skipped]
      exact alone
    | between =>
      rw [← feeFrame.backfilledThrough, ← feeFrame.canonicalTimestampForLog] at skipped
      simp only [OwnTrade.settled, deliveredFee, ok_bind, onMiddle.settle_skipped kept skipped]
      exact deliveredSwap
    | after =>
      rw [← frame.backfilledThrough, ← frame.canonicalTimestampForLog] at skipped
      rw [OwnTrade.settled, alone]
      exact onFinal.settle_skipped kept skipped
  · obtain ⟨notHydrated, isCached⟩ := not_or.mp skipped
    have later := Nat.lt_of_not_le notHydrated
    obtain ⟨cached, cachedIs⟩ := Option.ne_none_iff_exists'.mp isCached
    have sameStamp := stamped cached cachedIs
    subst sameStamp
    have laterFee := later.trans_eq on.sameBlock.symm
    have laterMiddle := feeFrame.backfilledThrough.trans_lt later
    obtain ⟨feeLast, feeHash, _⟩ := deliver_spec decodedFee on.adaptive on.known laterFee deliveredFee
    cases placement with
    | before =>
      refine iff_of_false ?_ (fun holds => skipped (holds.resolve_left nofun))
      rintro ⟨settled, ran, _⟩
      obtain ⟨first, settledFirst, streamed⟩ := bind_eq_ok.mp ran
      obtain ⟨second, deliveredLate, _⟩ := bind_eq_ok.mp streamed
      obtain ⟨settleFrame, swapLast, _⟩ := on.settle_spec kept later cachedIs settledFirst
      have laterFirst := settleFrame.backfilledThrough.trans_lt later
      exact (on.of_frame settleFrame).deliver_fee_error laterFirst swapLast second deliveredLate
    | between =>
      refine iff_of_true ⟨final, ?_, SamePool.refl locator final⟩ (Or.inl rfl)
      obtain ⟨_, feeHead⟩ := deliver_accepted deliveredFee
      have headMiddle := (feeFrame.requireHead _ _ _ _).trans feeHead
      have cachedMiddle := (feeFrame.canonicalTimestampForLog trade.swapLog).trans cachedIs
      obtain ⟨settledMiddle, again⟩ := onMiddle.settle_between laterMiddle cachedMiddle headMiddle
        feeLast feeHash deliveredSwap
      simp only [OwnTrade.settled, deliveredFee, ok_bind, settledMiddle]
      exact again
    | after =>
      refine iff_of_false ?_ (fun holds => skipped (holds.resolve_left nofun))
      rintro ⟨settled, ran, _⟩
      obtain ⟨streamed, streamedIs, settledLast⟩ := bind_eq_ok.mp ran
      rw [alone] at streamedIs
      cases streamedIs
      have laterFinal := frame.backfilledThrough.trans_lt later
      have cachedFinal := (frame.canonicalTimestampForLog trade.swapLog).trans cachedIs
      obtain ⟨swapLast, _, _⟩ :=
        deliver_spec decodedSwap on.adaptive onMiddle.known laterMiddle deliveredSwap
      obtain ⟨_, _, notOlder⟩ := onFinal.settle_spec kept laterFinal cachedFinal settledLast
      exact notOlder _ swapLast on.fee_lt_swap

/-! ## A Camelot trade -/

/-- A fee of 100 whatever the market does. -/
def camelotFeeState : FeeProjectionState :=
  let config : AdaptiveFeeConfiguration := ⟨0, 0, 0, 0, 1, 1, 0, 1, 100⟩
  ⟨100, 100, 0, 1000, 0, 0, ⟨100, 100⟩, 0, config, config,
    (∅ : Std.TreeMap Nat Timepoint).insert 0 ⟨true, 100, 0, 0, 0, 0, 0⟩⟩

def camelotPool : HydratedPool where
  identity := .camelotV3 3
  pool := ⟨100, 100, 10, 2 ^ 96, 0, 1000, ∅, ∅, .algebraRaw, .algebraDirectional⟩
  camelotFee := some ⟨camelotFeeState, ⟨⟨100, 100⟩, ⟨100, 100⟩, 100, 102⟩⟩
  lynexFee := none

def camelotStart : Except String DexMirror :=
  DexMirror.atEleven camelotPool

/-- An own trade in block 11. -/
def camelotTrade : OwnTrade where
  fee := .camelot 3 100 100 ⟨11, 3, 1⟩ 11
  feeLog := ⟨3, [camelotFeeTopic], abiWord 100 ++ abiWord 100, 11, 11, 3, 1, false⟩
  swapLog := ⟨3, [v3SwapTopic, 1, 2],
    abiWord 4 ++ abiWord (-9) ++ abiWord (2 ^ 96 + 1) ++ abiWord 2000 ++ abiWord 1, 11, 11, 3, 2,
    false⟩

def camelotMirror : DexMirror :=
  camelotStart.toOption.getD noPools

theorem camelotStart_eq : camelotStart = .ok camelotMirror := by
  obtain ⟨mirror, started⟩ := exists_eq_ok (x := camelotStart) (by decide +kernel)
  rw [camelotMirror, started]
  rfl

theorem camelotTrade_on : camelotTrade.On (.camelotV3 3) camelotMirror := by
  have decodedFee : camelotMirror.decode camelotTrade.feeLog =
      .ok (some ⟨.camelotV3 3, .fee 100 100⟩) := by decide +kernel
  have decodedSwap : camelotMirror.decode camelotTrade.swapLog =
      .ok (some ⟨.camelotV3 3, .swap (2 ^ 96 + 1) 1 2000 none⟩) := by decide +kernel
  refine ⟨rfl, by decide +kernel, rfl, rfl, rfl, rfl, by decide, ⟨100, 100, decodedFee⟩,
    ⟨_, _, _, _, decodedSwap⟩, fun zeroForOne oneForZero decoded => ?_⟩
  rw [decodedFee] at decoded
  cases decoded
  exact Or.inl ⟨rfl, rfl⟩

theorem camelot_streamed :
    ∃ final, camelotTrade.streamed uniswapV3Math camelotMirror 101 = .ok final :=
  exists_eq_ok (by decide +kernel)

/-- A receipt between the two events of the stream. -/
theorem camelot_receipt_between : ∃ final settled,
    camelotTrade.streamed uniswapV3Math camelotMirror 101 = .ok final ∧
    camelotTrade.settled uniswapV3Math camelotMirror 101 .between = .ok settled ∧
    OwnTrade.SamePool (.camelotV3 3) settled final := by
  obtain ⟨final, alone⟩ := camelot_streamed
  have stamped : ∀ cached, camelotMirror.canonicalTimestampForLog camelotTrade.swapLog = some cached →
      cached = 101 := by
    have cachedIs : camelotMirror.canonicalTimestampForLog camelotTrade.swapLog = some 101 := by
      decide +kernel
    exact fun cached other => Option.some.inj (other.symm.trans cachedIs)
  obtain ⟨settled, ran, same⟩ := (settlement_commutes_iff uniswapV3Math camelotTrade (.camelotV3 3)
    camelotMirror final 101 camelotTrade_on stamped alone .between).mpr (Or.inl rfl)
  exact ⟨final, settled, alone, ran, same⟩

/-- A receipt before the stream's Fee makes that Fee fail, and one after the stream's Swap fails
itself, where the stream alone is accepted. -/
theorem camelot_receipt_fails_around_stream :
    camelotStart = .ok camelotMirror ∧ camelotTrade.On (.camelotV3 3) camelotMirror ∧
    (∃ final, camelotTrade.streamed uniswapV3Math camelotMirror 101 = .ok final) ∧
    (camelotTrade.settled uniswapV3Math camelotMirror 101 .before).map (fun _ => ()) =
      .error "canonical pool event arrived out of order; rehydration required" ∧
    (camelotTrade.settled uniswapV3Math camelotMirror 101 .after).map (fun _ => ()) =
      .error "receipt Fee arrived out of canonical order; rehydration required" :=
  ⟨camelotStart_eq, camelotTrade_on, camelot_streamed, by decide +kernel, by decide +kernel⟩

end PolyBot.Dex
