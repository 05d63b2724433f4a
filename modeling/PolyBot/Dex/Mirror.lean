import PolyBot.Dex.Clmm
import PolyBot.Dex.Events
import PolyBot.Dex.FeeProjection

/-!
# The pool mirror

The bot's copy of the pools it trades on.  Logs come from the canonical stream and, for the bot's own
swaps, from the receipt before the stream brings them; one position for each pool decides which of
them are new.  An adaptive pool announces its fee in a Fee event directly before the action that uses
it.

An error of the mirror ends in rehydration, so no state comes with one.  The index maps of the
original are looked up in the pools themselves: they are built once from the identities, which never
change.
-/

namespace PolyBot.Dex

structure CanonicalBlock where
  number : Nat
  hash : B256
  parentHash : B256
  deriving DecidableEq

/-- The fee of an adaptive pool: the state it is projected from, and the envelope last published. -/
structure HydratedFee where
  state : FeeProjectionState
  envelope : FeeEnvelope

structure HydratedPool where
  identity : PoolLocator
  pool : ClmmPool
  camelotFee : Option HydratedFee
  lynexFee : Option HydratedFee

/-- A Fee event that the next action of its pool has to use up. -/
structure PendingAdaptiveFee where
  position : LogPosition
  blockTimestamp : Nat
  deriving DecidableEq

inductive LogApplyResult
  | applied (poolIndex : Nat) (kind : PoolEventKind) (refreshRequired : Bool)
  | duplicate
  | unknown
  deriving DecidableEq

inductive LogOrigin
  | canonicalStream
  | receiptSettlement
  deriving DecidableEq

structure HeadApplyResult where
  advanced : Bool
  refreshPoolIndex : Option Nat
  deriving DecidableEq

structure DexMirror where
  pools : List HydratedPool
  lastPositions : PoolLocator → Option LogPosition
  lastBlockHashes : PoolLocator → Option B256
  pendingAdaptiveFees : Nat → Option PendingAdaptiveFee
  backfilledThrough : Nat
  backfillComplete : Bool
  latestHead : CanonicalBlock
  latestHeadTimestamp : Option Nat
  recentHeadTimestamps : List (Nat × B256 × Nat)

/-- What has become of a log, and the mirror after it. -/
abbrev AppliedLog := Except String (LogApplyResult × DexMirror)

/-- The pool that has changed, and the mirror after it. -/
abbrev ChangedPool := Except String (Option Nat × DexMirror)

def noPools : DexMirror :=
  ⟨[], fun _ => none, fun _ => none, fun _ => none, 0, false, ⟨0, 0, 0⟩, none, []⟩

/-- How many canonical timestamps are kept. -/
def recentCanonicalTimestamps : Nat := 128

/-! ## One pool -/

namespace HydratedPool

variable (math : UniswapV3Math) (hydrated : HydratedPool)

/-- The fee state that the events of an adaptive locator go to. -/
def adaptiveFee : PoolLocator → Except String HydratedFee
  | .camelotV3 _ => orError hydrated.camelotFee "Camelot hydrated fee state is missing"
  | _ => orError hydrated.lynexFee "Lynex hydrated fee state is missing"

def withAdaptiveFee (fee : HydratedFee) : PoolLocator → HydratedPool
  | .camelotV3 _ => { hydrated with camelotFee := some fee }
  | _ => { hydrated with lynexFee := some fee }

/-- An action that writes a timepoint uses up the Fee event before it, which has to be in the same
transaction; without one, the action has to fall on the latest timepoint. -/
def validateAdaptiveTimepointLink (pending : Option PendingAdaptiveFee) (log : ChainLog)
    (timestamp latestTimestamp : Nat) (actionWritesTimepoint : Bool) : Except String Unit :=
  match pending with
  | none =>
    if actionWritesTimepoint then
      require (latestTimestamp = timestamp)
        "adaptive Algebra pool action is missing its preceding Fee event"
    else
      require (latestTimestamp ≤ timestamp)
        "adaptive Algebra pool action timestamp precedes latest timepoint"
  | some fee => do
    require (actionWritesTimepoint = true ∧ fee.blockTimestamp = timestamp ∧
        fee.position.blockNumber = log.blockNumber ∧
        fee.position.transactionIndex = log.transactionIndex ∧ fee.position < log.position)
      "adaptive Algebra Fee is not positionally linked to its pool action"
    require (latestTimestamp = timestamp)
      "adaptive Algebra Fee did not install the action timepoint"

/-- The fee that a V4 Swap names has to be the static one. -/
def validateStaticFee (feePips : Option Nat) : Except String Unit :=
  require (feePips.all (· = hydrated.pool.feePips) = true)
    "V4 Swap fee differs from hydrated static fee"

variable (locator : PoolLocator) (log : ChainLog) (blockTimestamp : Option Nat)
  (pending : Option PendingAdaptiveFee)

def applyAdaptiveSwap (sqrtPriceX96 : Nat) (tick : Int) (liquidity : Nat) :
    Except String HydratedPool := do
  let timestamp ← orError blockTimestamp "adaptive Algebra log has no canonical block timestamp"
  let (amount0, amount1) := decodeCamelotV3SwapAmountsAfterEventValidation log
  let fee ← hydrated.adaptiveFee locator
  validateAdaptiveTimepointLink pending log timestamp fee.state.latestTimepointTimestamp true
  let pool ← hydrated.pool.applySwapHead sqrtPriceX96 tick liquidity
  let state ← fee.state.applySwapAfterTimepointValidation timestamp amount0 amount1 tick liquidity
  return { hydrated with pool := pool }.withAdaptiveFee { fee with state := state } locator

/-- The fee state after an adaptive pool's liquidity changed at the current tick. -/
def applyAdaptiveLiquidityHead (timestamp : Nat) :
    Except String HydratedPool := do
  let fee ← hydrated.adaptiveFee locator
  let state ← fee.state.applyLiquidityHead timestamp hydrated.pool.tick hydrated.pool.liquidity
  return hydrated.withAdaptiveFee { fee with state := state } locator

def applyAdaptiveLiquidity (tickLower tickUpper delta : Int) : Except String HydratedPool := do
  let timestamp ← orError blockTimestamp "adaptive Algebra log has no canonical block timestamp"
  let active := delta ≠ 0 ∧ hydrated.pool.inRange tickLower tickUpper = true
  let fee ← hydrated.adaptiveFee locator
  validateAdaptiveTimepointLink pending log timestamp fee.state.latestTimepointTimestamp active
  let pool ← hydrated.pool.applyLiquidityDelta math tickLower tickUpper delta
  let moved := { hydrated with pool := pool }
  if active then moved.applyAdaptiveLiquidityHead locator timestamp else return moved

def applyFeeTimepoint (timestamp : Nat) (emitted : DirectionalFees) : Except String HydratedPool := do
  let fee ← hydrated.adaptiveFee locator
  let state ← fee.state.applyFeeTimepoint timestamp emitted
  return hydrated.withAdaptiveFee { fee with state := state } locator

/-- A Fee event, which the pool's next action has to use up. -/
def applyFee (zeroForOne oneForZero : Nat) :
    Except String (HydratedPool × Option PendingAdaptiveFee) := do
  require (locator.isAdaptive = true) "adaptive Algebra Fee was routed to another provider"
  require (locator.isLynex = true → zeroForOne = oneForZero)
    "Lynex single-fee event became directional"
  require (pending = none) "adaptive Algebra Fee was not consumed by the preceding pool action"
  let timestamp ← orError blockTimestamp "adaptive Algebra log has no canonical block timestamp"
  let next ← hydrated.applyFeeTimepoint locator timestamp ⟨zeroForOne, oneForZero⟩
  return (next, some ⟨log.position, timestamp⟩)

/-- The pool and its pending Fee after an event, and whether quotes have to be refreshed. -/
def applyUpdate :
    PoolUpdate → Except String (HydratedPool × Option PendingAdaptiveFee × Bool)
  | .swap sqrtPriceX96 tick liquidity feePips => do
    hydrated.validateStaticFee feePips
    if locator.isAdaptive then do
      let next ← hydrated.applyAdaptiveSwap locator log blockTimestamp pending sqrtPriceX96 tick
        liquidity
      return (next, none, true)
    else do
      let pool ← hydrated.pool.applySwapHead sqrtPriceX96 tick liquidity
      return ({ hydrated with pool := pool }, pending, true)
  | .liquidity tickLower tickUpper delta =>
    if locator.isAdaptive then do
      let next ← hydrated.applyAdaptiveLiquidity math locator log blockTimestamp pending tickLower
        tickUpper delta
      return (next, none, true)
    else do
      let pool ← hydrated.pool.applyLiquidityDelta math tickLower tickUpper delta
      return ({ hydrated with pool := pool }, pending, true)
  | .fee zeroForOne oneForZero => do
    let (next, pending) ← hydrated.applyFee locator log blockTimestamp pending zeroForOne oneForZero
    return (next, pending, false)
  | .tickSpacing value =>
    .error s!"Algebra TickSpacing changed to {value}; pinned rehydration required"
  | .incentive address =>
    .error ("Algebra Incentive changed to 0x" ++ address.toHex ++ "; pinned rehydration required")

/-- The envelope of the published fee, over the same horizon from the current head. -/
def refreshedEnvelope (fee : HydratedFee) (unordered : String) : Except String FeeEnvelope := do
  let horizon ← orError (checkedSub fee.envelope.lastTimestamp fee.envelope.firstTimestamp) unordered
  fee.state.envelope horizon

/-- Publishes the fee of an adaptive pool and says whether its maximum changed. -/
def refreshAdaptiveAlgebraEnvelope : Except String (HydratedPool × Bool) :=
  match hydrated.camelotFee, hydrated.lynexFee with
  | some fee, _ => do
    let envelope ← refreshedEnvelope fee "Camelot fee envelope timestamps are not ordered"
    let pool ← hydrated.pool.setAlgebraDirectionalFees envelope.maximum.zeroForOne
      envelope.maximum.oneForZero
    return ({ hydrated with pool := pool, camelotFee := some { fee with envelope := envelope } },
      fee.envelope.maximum ≠ envelope.maximum)
  | none, some fee => do
    let envelope ← refreshedEnvelope fee "Lynex fee envelope timestamps are not ordered"
    require (envelope.current.zeroForOne = envelope.current.oneForZero ∧
        envelope.maximum.zeroForOne = envelope.maximum.oneForZero)
      "Lynex single-fee projection became directional"
    let pool ← hydrated.pool.setAlgebraSingleFee envelope.maximum.zeroForOne
    return ({ hydrated with pool := pool, lynexFee := some { fee with envelope := envelope } },
      fee.envelope.maximum ≠ envelope.maximum)
  | none, none => .error "adaptive Algebra hydrated fee state is missing"

/-- Advances the fee state of an adaptive pool to the head and publishes its fee. -/
def advanceHead (hydrated : HydratedPool) (timestamp : Nat) : Except String (HydratedPool × Bool) :=
  match hydrated.camelotFee, hydrated.lynexFee with
  | some fee, _ => do
    let state ← fee.state.advanceHead timestamp
    refreshAdaptiveAlgebraEnvelope { hydrated with camelotFee := some { fee with state := state } }
  | none, some fee => do
    let state ← fee.state.advanceHead timestamp
    refreshAdaptiveAlgebraEnvelope { hydrated with lynexFee := some { fee with state := state } }
  | none, none => .error "adaptive Algebra hydrated fee state is missing"

end HydratedPool

/-! ## The mirror -/

namespace DexMirror

variable (math : UniswapV3Math) (mirror : DexMirror)

def hasPool (locator : PoolLocator) : Bool :=
  mirror.pools.any fun hydrated => hydrated.identity = locator

def poolIndex (locator : PoolLocator) : Option Nat :=
  mirror.pools.findIdx? fun hydrated => hydrated.identity = locator

/-- The pool of a locator, with its index. -/
def locate (locator : PoolLocator) : Option (Nat × HydratedPool) :=
  (mirror.poolIndex locator).bind fun index => mirror.pools[index]?.map fun hydrated =>
    (index, hydrated)

def isAdaptiveAlgebraAddress (address : Address) : Bool :=
  mirror.hasPool (.camelotV3 address) || mirror.hasPool (.lynexAlgebraV19 address)

def hasAdaptiveAlgebraPools : Bool :=
  mirror.pools.any fun hydrated => hydrated.identity.isAdaptive

/-- The pool that logs of an address are routed to. -/
def locatorHint (address : Address) : Option PoolLocator :=
  [.v3 address, .pancakeV3 address, .camelotV3 address, .lynexAlgebraV19 address].find?
    mirror.hasPool

def decode (log : ChainLog) : Except String (Option DecodedPoolEvent) :=
  match mirror.locatorHint log.address with
  | some (.camelotV3 address) => decodeCamelotPoolEvent log address
  | some (.lynexAlgebraV19 address) => decodeLynexAlgebraV19PoolEvent log address
  | some locator => decodePoolEventForLocator log locator
  | none => decodePoolEvent log

/-- A log of the canonical stream may not run ahead of the head, once the backfill is over. -/
def requireHead (blockNumber : Nat) (blockHash : B256) (early changed : String) :
    Except String Unit := do
  require (mirror.backfillComplete = true → blockNumber ≤ mirror.latestHead.number) early
  require (mirror.backfillComplete = true → blockNumber = mirror.latestHead.number →
    blockHash = mirror.latestHead.hash) changed

variable (locator : PoolLocator) (position : LogPosition) (blockHash : B256)

/-- Whether an event at `position` has been applied before.  An older position is a copy for a
static-fee pool; an adaptive pool takes it as a reordering. -/
def isDuplicate : Except String Bool :=
  match mirror.lastPositions locator with
  | none => .ok false
  | some last =>
    if position = last then do
      require (locator.isAdaptive = true → mirror.lastBlockHashes locator = some blockHash)
        "duplicate pool position changed block hash; rehydration required"
      return true
    else if position < last ∧ locator.isAdaptive = false then
      .ok true
    else do
      require (last < position) "canonical pool event arrived out of order; rehydration required"
      return false

/-- The mirror with a pool replaced after an event at `position`. -/
def record (locator : PoolLocator) (index : Nat) (hydrated : HydratedPool)
    (pending : Option PendingAdaptiveFee) (position : LogPosition) (blockHash : B256) : DexMirror :=
  { mirror with
    pools := mirror.pools.set index hydrated
    pendingAdaptiveFees := Function.update mirror.pendingAdaptiveFees index pending
    lastPositions := Function.update mirror.lastPositions locator (some position)
    lastBlockHashes := Function.update mirror.lastBlockHashes locator (some blockHash) }

/-- Applies an event that has not been applied before. -/
def applyNew (log : ChainLog) (event : DecodedPoolEvent) (blockTimestamp : Option Nat) :
    AppliedLog :=
  match mirror.locate event.locator with
  | none => .ok (.unknown, mirror)
  | some (index, hydrated) => do
    let (next, pending, refreshRequired) ← hydrated.applyUpdate math event.locator log
      blockTimestamp (mirror.pendingAdaptiveFees index) event.update
    return (.applied index event.kind refreshRequired,
      mirror.record event.locator index next pending log.position log.blockHash)

def applyEvent (log : ChainLog) (event : DecodedPoolEvent) (blockTimestamp : Option Nat)
    (origin : LogOrigin) : AppliedLog := do
  require (origin = .receiptSettlement → event.update.isSwap = true)
    "receipt settlement event is not a Swap"
  let duplicate ← mirror.isDuplicate event.locator log.position log.blockHash
  if duplicate then return (.duplicate, mirror)
  else mirror.applyNew math log event blockTimestamp

/-- Decodes and applies a log of a block after the backfill. -/
def applyDecoded (log : ChainLog) (blockTimestamp : Option Nat) (origin : LogOrigin) :
    AppliedLog := do
  match ← mirror.decode log with
  | none => return (.unknown, mirror)
  | some event => mirror.applyEvent math log event blockTimestamp origin

/-- Only the canonical stream is held to the head; a receipt's Swap may lead it. -/
def requireLogHead (log : ChainLog) : LogOrigin → Except String Unit
  | .canonicalStream => mirror.requireHead log.blockNumber log.blockHash
    "pool log arrived before its canonical head" "pool log block hash differs from canonical head"
  | .receiptSettlement => .ok ()

def applyLogInner (log : ChainLog) (blockTimestamp : Option Nat) (origin : LogOrigin) :
    AppliedLog := do
  require (log.removed = false) "received removed log; rehydration required"
  mirror.requireLogHead log origin
  if log.blockNumber ≤ mirror.backfilledThrough then return (.duplicate, mirror)
  else mirror.applyDecoded math log blockTimestamp origin

def applyLogAtTimestamp (log : ChainLog) (blockTimestamp : Nat) : AppliedLog :=
  mirror.applyLogInner math log (some blockTimestamp) .canonicalStream

/-- A static-fee Swap proven by a receipt, which may run ahead of the head. -/
def applyStaticFeeReceiptLog (log : ChainLog) : AppliedLog := do
  require (mirror.isAdaptiveAlgebraAddress log.address = false)
    "adaptive Algebra receipt requires its canonical Fee and block timestamp"
  mirror.applyLogInner math log none .receiptSettlement

/-- Whether a receipt's Fee has been applied before. -/
def isDuplicateFee : Except String Bool :=
  match mirror.lastPositions locator with
  | none => .ok false
  | some last =>
    if position = last then do
      require (mirror.lastBlockHashes locator = some blockHash)
        "duplicate receipt Fee position changed block hash; rehydration required"
      return true
    else do
      require (last < position) "receipt Fee arrived out of canonical order; rehydration required"
      return false

/-- Installs the timepoint of a receipt's Fee. -/
def applyNewFee (emitted : DirectionalFees) (blockTimestamp index : Nat) (hydrated : HydratedPool) :
    AppliedLog := do
  require (mirror.pendingAdaptiveFees index = none)
    "adaptive Algebra Fee was not consumed by the preceding pool action"
  let next ← hydrated.applyFeeTimepoint locator blockTimestamp emitted
  return (.applied index .fee false,
    mirror.record locator index next (some ⟨position, blockTimestamp⟩) position blockHash)

/-- A Fee proven by a receipt.  The two providers differ in their locator and in how many fees the
event has. -/
def applyFeeReceipt (emitted : DirectionalFees) (blockTimestamp : Nat) : AppliedLog := do
  mirror.requireHead position.blockNumber blockHash "receipt Fee arrived before its canonical head"
    "receipt Fee block hash differs from canonical head"
  if position.blockNumber ≤ mirror.backfilledThrough then return (.duplicate, mirror)
  else
    match mirror.locate locator with
    | none => return (.unknown, mirror)
    | some (index, hydrated) => do
      let duplicate ← mirror.isDuplicateFee locator position blockHash
      if duplicate then return (.duplicate, mirror)
      else mirror.applyNewFee locator position blockHash emitted blockTimestamp index hydrated

def applyCamelotFeeReceipt (pool : Address) (zeroForOne oneForZero : Nat) (position : LogPosition)
    (blockHash : B256) (blockTimestamp : Nat) : AppliedLog :=
  mirror.applyFeeReceipt (.camelotV3 pool) position blockHash ⟨zeroForOne, oneForZero⟩ blockTimestamp

def applyLynexFeeReceipt (pool : Address) (fee : Nat) (position : LogPosition) (blockHash : B256)
    (blockTimestamp : Nat) : AppliedLog :=
  mirror.applyFeeReceipt (.lynexAlgebraV19 pool) position blockHash ⟨fee, fee⟩ blockTimestamp

/-! ## Heads -/

/-- Publishes the fee of a pool before its quotes are rebuilt; a static-fee pool has none. -/
def refreshPoolForPublication (index : Nat) : Except String (Bool × DexMirror) := do
  let hydrated ← orError mirror.pools[index]? "DEX pool index is invalid"
  if hydrated.camelotFee.isSome ∨ hydrated.lynexFee.isSome then do
    let (next, changed) ← hydrated.refreshAdaptiveAlgebraEnvelope
    return (changed, { mirror with pools := mirror.pools.set index next })
  else
    return (false, mirror)

/-- The canonical timestamp of a log's block, if it is one of the recent ones. -/
def canonicalTimestampForLog (log : ChainLog) : Option Nat :=
  (mirror.recentHeadTimestamps.reverse.find? fun (number, hash, _) =>
    number = log.blockNumber ∧ hash = log.blockHash).map fun (_, _, timestamp) => timestamp

/-- The recent timestamps with one more; the oldest goes when there are too many. -/
def pushTimestamp (head : CanonicalBlock) (timestamp : Nat) : DexMirror :=
  let recent := mirror.recentHeadTimestamps ++ [(head.number, head.hash, timestamp)]
  { mirror with
    recentHeadTimestamps :=
      if recentCanonicalTimestamps < recent.length then recent.drop 1 else recent }

def recordCanonicalTimestamp (head : CanonicalBlock) (timestamp : Nat) : Except String DexMirror :=
  match mirror.recentHeadTimestamps.getLast? with
  | some (number, hash, existing) =>
    if number = head.number then do
      require (hash = head.hash ∧ existing = timestamp)
        "cached canonical head changed hash or timestamp"
      return mirror
    else .ok (mirror.pushTimestamp head timestamp)
  | none => .ok (mirror.pushTimestamp head timestamp)

/-- One adaptive pool brought to the head; at most one pool may change its published maximum. -/
def refreshAdaptiveAlgebraHead (timestamp : Nat) (result : Option Nat × DexMirror) (index : Nat) :
    ChangedPool := do
  let hydrated ← orError result.2.pools[index]? "DEX pool index is invalid"
  let (next, changed) ← hydrated.advanceHead timestamp
  require (changed = true → result.1 = none)
    "one head changed multiple adaptive Algebra fee envelopes"
  return (if changed then some index else result.1,
    { result.2 with pools := result.2.pools.set index next })

/-- The indices of the adaptive pools, Camelot's first.  The original goes through two hash maps,
whose order within each is not fixed. -/
def adaptiveIndices : List Nat :=
  let indices := List.range mirror.pools.length
  let of (lynex : Bool) (index : Nat) : Bool :=
    mirror.pools[index]?.any fun hydrated =>
      hydrated.identity.isAdaptive && hydrated.identity.isLynex == lynex
  indices.filter (of false) ++ indices.filter (of true)

def refreshAdaptiveAlgebraHeads (timestamp : Nat) : ChangedPool :=
  mirror.adaptiveIndices.foldlM (refreshAdaptiveAlgebraHead timestamp) (none, mirror)

variable (head : CanonicalBlock) (timestamp : Option Nat)

/-- What a new head does to the adaptive pools, if there are any. -/
def refreshForHead (missing : String) : ChangedPool :=
  if mirror.hasAdaptiveAlgebraPools then do
    let timestamp ← orError timestamp missing
    let recorded ← mirror.recordCanonicalTimestamp head timestamp
    recorded.refreshAdaptiveAlgebraHeads timestamp
  else
    .ok (none, mirror)

def finishBackfillAt : Except String DexMirror := do
  require (mirror.latestHead.number ≤ head.number) "backfill head predates hydration block"
  require (∀ index < mirror.pools.length, mirror.pendingAdaptiveFees index = none)
    "backfill ended with an unconsumed Camelot Fee"
  let finished : DexMirror := { mirror with
    backfilledThrough := head.number
    backfillComplete := true
    latestHead := head
    latestHeadTimestamp :=
      if mirror.hasAdaptiveAlgebraPools then timestamp else mirror.latestHeadTimestamp }
  let (_, refreshed) ← finished.refreshForHead head timestamp
    "adaptive Algebra backfill head timestamp is missing"
  return refreshed

/-- The same head again: it must not have changed. -/
def confirmHead : Except String (HeadApplyResult × DexMirror) := do
  require (head.hash = mirror.latestHead.hash)
    "same-height World Chain head changed; rehydration required"
  if mirror.hasAdaptiveAlgebraPools then do
    require (timestamp = mirror.latestHeadTimestamp)
      "same-height adaptive Algebra head changed timestamp; rehydration required"
    let timestamp ← orError timestamp "adaptive Algebra canonical head timestamp is missing"
    let recorded ← mirror.recordCanonicalTimestamp head timestamp
    return (⟨false, none⟩, recorded)
  else
    return (⟨false, none⟩, mirror)

/-- The next head, which has to be the child of the latest one. -/
def advanceHead : Except String (HeadApplyResult × DexMirror) := do
  require (head.number = mirror.latestHead.number + 1)
    "World Chain head gap detected; rehydration required"
  require (head.parentHash = mirror.latestHead.hash)
    "World Chain parent hash mismatch; rehydration required"
  let advanced : DexMirror := { mirror with latestHead := head, latestHeadTimestamp := timestamp }
  let (changed, refreshed) ← advanced.refreshForHead head timestamp
    "adaptive Algebra canonical head timestamp is missing"
  return (⟨true, changed⟩, refreshed)

def applyHeadAt : Except String (HeadApplyResult × DexMirror) :=
  if head.number < mirror.latestHead.number then .ok (⟨false, none⟩, mirror)
  else if head.number = mirror.latestHead.number then mirror.confirmHead head timestamp
  else mirror.advanceHead head timestamp

/-- The head timestamp of a hydrated adaptive pool. -/
def hydratedTimestamp (hydrated : HydratedPool) : Option Nat :=
  (hydrated.camelotFee <|> hydrated.lynexFee).map fun fee => fee.state.headTimestamp

/-- The mirror after hydration at `block`, before the backfill. -/
def new (pools : List HydratedPool) (block : CanonicalBlock) : Except String DexMirror := do
  require (pools.map HydratedPool.identity).Nodup "duplicate hydrated pool identity"
  let timestamps := pools.filterMap hydratedTimestamp
  require (∀ timestamp ∈ timestamps.drop 1, some timestamp = timestamps.head?)
    "hydrated adaptive Algebra pools disagree on canonical head timestamp"
  return {
    pools := pools
    lastPositions := fun _ => none
    lastBlockHashes := fun _ => none
    pendingAdaptiveFees := fun _ => none
    backfilledThrough := block.number
    backfillComplete := false
    latestHead := block
    latestHeadTimestamp := timestamps.head?
    recentHeadTimestamps := timestamps.head?.toList.map fun timestamp =>
      (block.number, block.hash, timestamp) }

/-- One pool hydrated at block 9, backfilled through block 10, at head 11. -/
def atEleven (hydrated : HydratedPool) : Except String DexMirror := do
  let mirror ← new [hydrated] ⟨9, 9, 8⟩
  let filled ← mirror.finishBackfillAt ⟨10, 10, 9⟩ (some 100)
  let (_, mirror) ← filled.applyHeadAt ⟨11, 11, 10⟩ (some 101)
  return mirror

end DexMirror

end PolyBot.Dex
