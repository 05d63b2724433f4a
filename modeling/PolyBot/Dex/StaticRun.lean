import PolyBot.Dex.MirrorSteps

/-!
# A static-fee pool under stream and receipts

The stream brings the logs of a pool in canonical order, some more than once.  The receipts of own
swaps come at any time, ahead of the stream too.  An older position is then taken for a copy.

* `UpTo`: the pool is what the logs up to its last position make of it; `UpTo.step` keeps that.
* `static_run_matches_canonical`: once every log has been delivered, the pool is what each log, once
  and in order, makes of it, in every run in which no receipt overtakes a liquidity event.
* `overtaken_mint_is_lost`: a Mint that a receipt overtakes is never applied.
-/

namespace PolyBot.Dex

open HydratedPool LogPosition List

/-- What a log of a static-fee pool does to it. -/
def ClmmPool.applyCanonical (math : UniswapV3Math) (pool : ClmmPool) :
    PoolUpdate → Except String ClmmPool
  | .swap sqrtPriceX96 tick liquidity feePips => do
    require (feePips.all (· = pool.feePips) = true) "V4 Swap fee differs from hydrated static fee"
    pool.applySwapHead sqrtPriceX96 tick liquidity
  | .liquidity tickLower tickUpper delta => pool.applyLiquidityDelta math tickLower tickUpper delta
  | _ => .error "not an event of a static-fee pool"

def PoolUpdate.isLiquidity : PoolUpdate → Bool
  | .liquidity _ _ _ => true
  | _ => false

/-- A log of the pool with its update. -/
structure PoolLog where
  log : ChainLog
  update : PoolUpdate

def PoolLog.position (entry : PoolLog) : LogPosition :=
  entry.log.position

/-- Every log once, in order. -/
def replayCanonical (math : UniswapV3Math) (pool : ClmmPool) (logs : List PoolLog) :
    Except String ClmmPool :=
  logs.foldlM (fun pool entry => pool.applyCanonical math entry.update) pool

/-- The canonical logs of a static-fee pool from `mirror` on: in the order of their positions, each
after the hydrated block and after the pool's last event. -/
structure CanonicalLogs (locator : PoolLocator) (mirror : DexMirror) (logs : List PoolLog) :
    Prop where
  static : locator.isAdaptive = false
  known : mirror.hasPool locator = true
  sorted : logs.Pairwise fun a b => a.position < b.position
  decodes : ∀ entry ∈ logs, mirror.decode entry.log = .ok (some ⟨locator, entry.update⟩)
  kinds : ∀ entry ∈ logs, entry.update.isSwap = true ∨ entry.update.isLiquidity = true
  later : ∀ entry ∈ logs, mirror.backfilledThrough < entry.log.blockNumber
  ahead : ∀ entry ∈ logs, ∀ last, mirror.lastPositions locator = some last → last < entry.position

/-- The mirror, and the positions of the pool's logs that the stream has brought. -/
structure StreamState where
  mirror : DexMirror
  delivered : List LogPosition

/-- What comes to the mirror: a log of the pool from the stream or from a receipt, the same for any
other pool, and heads. -/
inductive StreamCall
  | deliver (entry : PoolLog) (timestamp : Nat)
  | settle (entry : PoolLog)
  | deliverOther (log : ChainLog) (timestamp : Nat)
  | settleOther (log : ChainLog)
  | head (head : CanonicalBlock) (timestamp : Option Nat)

namespace StreamCall

def apply (math : UniswapV3Math) (mirror : DexMirror) : StreamCall → Except String DexMirror
  | deliver entry timestamp => Prod.snd <$> mirror.applyLogAtTimestamp math entry.log timestamp
  | settle entry => Prod.snd <$> mirror.applyStaticFeeReceiptLog math entry.log
  | deliverOther log timestamp => Prod.snd <$> mirror.applyLogAtTimestamp math log timestamp
  | settleOther log => Prod.snd <$> mirror.applyStaticFeeReceiptLog math log
  | head block timestamp => Prod.snd <$> mirror.applyHeadAt block timestamp

/-- The log is none of the pool's. -/
def Foreign (locator : PoolLocator) (mirror : DexMirror) (log : ChainLog) : Prop :=
  ∀ event, mirror.decode log = .ok (some event) → event.locator ≠ locator

/-- The stream brings a log of the pool when it has brought all before it, maybe again; a receipt
brings any Swap of the pool at any time. -/
def Allowed (locator : PoolLocator) (logs : List PoolLog) (state : StreamState) : StreamCall → Prop
  | deliver entry _ => entry ∈ logs ∧
    ∀ other ∈ logs, other.position < entry.position → other.position ∈ state.delivered
  | settle entry => entry ∈ logs ∧ entry.update.isSwap = true
  | deliverOther log _ => Foreign locator state.mirror log
  | settleOther log => Foreign locator state.mirror log
  | head _ _ => True

/-- No receipt overtakes a liquidity event: the stream has brought every one before the settled
Swap. -/
def Drained (logs : List PoolLog) (state : StreamState) : StreamCall → Prop
  | settle entry => ∀ other ∈ logs, other.update.isLiquidity = true →
    other.position < entry.position → other.position ∈ state.delivered
  | _ => True

end StreamCall

/-- The delivered positions after a call. -/
def StreamState.deliveredBy (state : StreamState) : StreamCall → List LogPosition
  | .deliver entry _ => entry.position :: state.delivered
  | _ => state.delivered

/-- One call that is allowed and accepted. -/
structure StreamStep (math : UniswapV3Math) (locator : PoolLocator) (logs : List PoolLog)
    (state : StreamState) (call : StreamCall) (next : StreamState) : Prop where
  allowed : call.Allowed locator logs state
  applied : call.apply math state.mirror = .ok next.mirror
  delivered : next.delivered = state.deliveredBy call

/-! ## Calls for other pools, and heads -/

/-- Nothing that concerns the pool of `locator` has changed. -/
structure Untouched (locator : PoolLocator) (next mirror : DexMirror) : Prop where
  identities : next.pools.map identity = mirror.pools.map identity
  backfilledThrough : next.backfilledThrough = mirror.backfilledThrough
  located : next.locate locator = mirror.locate locator
  lastPosition : next.lastPositions locator = mirror.lastPositions locator

namespace Untouched

open DexMirror

variable {math : UniswapV3Math} {locator : PoolLocator} {mirror next : DexMirror}

theorem refl (locator : PoolLocator) (mirror : DexMirror) : Untouched locator mirror mirror :=
  ⟨rfl, rfl, rfl, rfl⟩

theorem trans {a b c : DexMirror} (ab : Untouched locator a b) (bc : Untouched locator b c) :
    Untouched locator a c :=
  ⟨ab.identities.trans bc.identities, ab.backfilledThrough.trans bc.backfilledThrough,
    ab.located.trans bc.located, ab.lastPosition.trans bc.lastPosition⟩

theorem of_foreign {log : ChainLog} {blockTimestamp : Option Nat} {origin : LogOrigin}
    {result : LogApplyResult} (foreign : StreamCall.Foreign locator mirror log)
    (applied : mirror.applyLogInner math log blockTimestamp origin = .ok (result, next)) :
    Untouched locator next mirror := by
  cases decoded : mirror.decode log with
  | error e =>
    simp only [applyLogInner, bind_eq_ok] at applied
    obtain ⟨_, _, _, _, applied⟩ := applied
    split at applied
    · cases applied
      exact refl _ _
    · simp only [applyDecoded, decoded] at applied
      cases applied
  | ok found =>
    cases found with
    | none =>
      simp only [applyLogInner, bind_eq_ok] at applied
      obtain ⟨_, _, _, _, applied⟩ := applied
      split at applied
      · cases applied
        exact refl _ _
      · simp only [applyDecoded, decoded] at applied
        cases applied
        exact refl _ _
    | some event =>
      have other := foreign event decoded
      obtain ⟨_, _, ⟨_, _, rfl⟩ | ⟨_, _, ⟨_, _, rfl⟩ | ⟨_, new⟩⟩⟩ :=
        applyLogInner_cases decoded applied
      · exact refl _ _
      · exact refl _ _
      · have frame := applyNew_frame new
        cases located : mirror.locate event.locator with
        | none =>
          simp only [applyNew, located] at new
          cases new
          exact refl _ _
        | some entry =>
          obtain ⟨index, hydrated⟩ := entry
          obtain ⟨_, stored, identity⟩ := locate_eq_some located
          obtain ⟨updated, pending, refresh, updates, _, rfl⟩ := applyNew_spec located new
          have same := applyUpdate_identity updates
          rw [← identity] at other
          refine ⟨frame.identities, rfl, locate_set_ne stored other same, ?_⟩
          rw [identity] at other
          exact Function.update_of_ne (Ne.symm other) _ _

variable {timestamp : Nat} {index : Nat} {block : CanonicalBlock}

/-- One adaptive pool brought to the head. -/
theorem of_adaptive_head {result result' : Option Nat × DexMirror}
    (adaptive : ∀ hydrated, result.2.pools[index]? = some hydrated → hydrated.identity ≠ locator)
    (refreshed : refreshAdaptiveAlgebraHead timestamp result index = .ok result') :
    Untouched locator result'.2 result.2 := by
  simp only [refreshAdaptiveAlgebraHead, bind_eq_ok, orError_eq_ok, pure_eq_ok] at refreshed
  obtain ⟨hydrated, stored, ⟨moved, changed⟩, advanced, _, _, rfl⟩ := refreshed
  have same := advanceHead_identity advanced
  exact ⟨map_identity_set stored same, rfl, locate_set_ne stored (adaptive hydrated stored) same, rfl⟩

/-- The indices of the adaptive pools are not that of a static-fee one. -/
theorem adaptiveIndices_ne (static : locator.isAdaptive = false)
    (mem : index ∈ mirror.adaptiveIndices) (other : DexMirror)
    (identities : other.pools.map identity = mirror.pools.map identity) (hydrated : HydratedPool)
    (stored : other.pools[index]? = some hydrated) : hydrated.identity ≠ locator := by
  have sameIdentity : mirror.pools[index]?.map identity = some hydrated.identity := by
    rw [← getElem?_map, ← identities, getElem?_map, stored]
    rfl
  rintro rfl
  simp only [adaptiveIndices, mem_append, mem_filter] at mem
  cases found : mirror.pools[index]? with
  | none => simp [found] at sameIdentity
  | some pool =>
    simp only [found, Option.map_some, Option.some.injEq] at sameIdentity
    simp [found, sameIdentity, static] at mem

theorem of_adaptive_heads (static : locator.isAdaptive = false) {changed : Option Nat}
    (refreshed : mirror.refreshAdaptiveAlgebraHeads timestamp = .ok (changed, next)) :
    Untouched locator next mirror := by
  have kept := foldlM_invariant
    (P := fun result : Option Nat × DexMirror => Untouched locator result.2 mirror) ?_
    (refl locator mirror) refreshed
  · exact kept
  · intro result index mem result' untouched stepped
    exact (of_adaptive_head (adaptiveIndices_ne static mem result.2 untouched.identities)
      stepped).trans untouched

theorem of_timestamp (recorded : mirror.recordCanonicalTimestamp block timestamp = .ok next) :
    Untouched locator next mirror := by
  unfold recordCanonicalTimestamp at recorded
  split at recorded
  · split at recorded
    · simp only [bind_eq_ok, pure_eq_ok] at recorded
      obtain ⟨_, _, rfl⟩ := recorded
      exact refl _ _
    · cases recorded
      exact ⟨rfl, rfl, rfl, rfl⟩
  · cases recorded
    exact ⟨rfl, rfl, rfl, rfl⟩

/-- A head leaves a static-fee pool as it is. -/
theorem of_head (static : locator.isAdaptive = false) {timestamp : Option Nat}
    {result : HeadApplyResult} (applied : mirror.applyHeadAt block timestamp = .ok (result, next)) :
    Untouched locator next mirror := by
  unfold applyHeadAt at applied
  split at applied
  · cases applied
    exact refl _ _
  · split at applied
    · simp only [confirmHead, bind_eq_ok] at applied
      obtain ⟨_, _, applied⟩ := applied
      split at applied
      · simp only [bind_eq_ok, pure_eq_ok, Prod.mk.injEq] at applied
        obtain ⟨_, _, _, _, _, recorded, _, rfl⟩ := applied
        exact of_timestamp recorded
      · cases applied
        exact refl _ _
    · simp only [DexMirror.advanceHead, refreshForHead, bind_eq_ok, pure_eq_ok, Prod.mk.injEq]
        at applied
      obtain ⟨_, _, _, _, ⟨changed, refreshed⟩, heads, _, rfl⟩ := applied
      have toAdvanced : Untouched locator
          { mirror with latestHead := block, latestHeadTimestamp := timestamp } mirror :=
        ⟨rfl, rfl, rfl, rfl⟩
      split at heads
      · simp only [bind_eq_ok] at heads
        obtain ⟨_, _, recorded, recordedIs, heads⟩ := heads
        exact (of_adaptive_heads static heads).trans ((of_timestamp recordedIs).trans toAdvanced)
      · cases heads
        exact toAdvanced

end Untouched

/-! ## One log of the pool -/

section Replay

variable {math : UniswapV3Math} {pool middle next : ClmmPool}

/-- A Swap hides a Swap before it. -/
theorem applyCanonical_swap_swap {first second : PoolUpdate} (firstSwap : first.isSwap = true)
    (secondSwap : second.isSwap = true) (applied : pool.applyCanonical math first = .ok middle)
    (appliedAfter : middle.applyCanonical math second = .ok next) :
    pool.applyCanonical math second = .ok next := by
  cases first with
  | swap price tick liquidity feePips =>
    cases second with
    | swap price' tick' liquidity' feePips' =>
      simp only [ClmmPool.applyCanonical, bind_eq_ok, require_eq_ok] at applied appliedAfter ⊢
      obtain ⟨_, _, swapped⟩ := applied
      obtain ⟨_, fee, swappedAfter⟩ := appliedAfter
      have sameFee : middle.feePips = pool.feePips := by
        obtain ⟨_, _, _, rfl⟩ := ClmmPool.applySwapHead_eq_ok.mp swapped
        rfl
      rw [sameFee] at fee
      exact ⟨(), fee, ClmmPool.applySwapHead_applySwapHead swapped swappedAfter⟩
    | liquidity | fee | tickSpacing | incentive => cases secondSwap
  | liquidity | fee | tickSpacing | incentive => cases firstSwap

/-- A Swap hides all the Swaps before it. -/
theorem applyCanonical_swap_of_swaps {swaps : List PoolLog} {update : PoolUpdate}
    (allSwaps : ∀ entry ∈ swaps, entry.update.isSwap = true) (isSwap : update.isSwap = true)
    (replayed : replayCanonical math pool swaps = .ok middle)
    (applied : middle.applyCanonical math update = .ok next) :
    pool.applyCanonical math update = .ok next := by
  induction swaps generalizing pool with
  | nil =>
    cases replayed
    exact applied
  | cons first rest ih =>
    obtain ⟨second, appliedFirst, replayedRest⟩ := bind_eq_ok.mp replayed
    have hidden := ih (fun entry mem => allSwaps entry (mem_cons_of_mem _ mem)) replayedRest
    exact applyCanonical_swap_swap (allSwaps first (mem_cons_self ..)) isSwap appliedFirst hidden

theorem replayCanonical_append {first second : List PoolLog} :
    replayCanonical math pool (first ++ second) = .ok next ↔
      ∃ middle, replayCanonical math pool first = .ok middle ∧
        replayCanonical math middle second = .ok next := by
  unfold replayCanonical
  rw [foldlM_append, bind_eq_ok]

theorem replayCanonical_cons {entry : PoolLog} {rest : List PoolLog} :
    replayCanonical math pool (entry :: rest) = .ok next ↔
      ∃ middle, pool.applyCanonical math entry.update = .ok middle ∧
        replayCanonical math middle rest = .ok next := by
  unfold replayCanonical
  rw [foldlM_cons, bind_eq_ok]

end Replay

variable {locator : PoolLocator} {math : UniswapV3Math}

/-- What the mirror does with an event of a static-fee pool. -/
theorem HydratedPool.applyUpdate_static {hydrated next : HydratedPool} {log : ChainLog}
    {blockTimestamp : Option Nat} {pending pending' : Option PendingAdaptiveFee} {refresh : Bool}
    {update : PoolUpdate} (static : locator.isAdaptive = false)
    (kind : update.isSwap = true ∨ update.isLiquidity = true)
    (applied : hydrated.applyUpdate math locator log blockTimestamp pending update =
      .ok (next, pending', refresh)) :
    hydrated.pool.applyCanonical math update = .ok next.pool := by
  have notAdaptive : ¬locator.isAdaptive = true := by
    rw [static]
    exact Bool.false_ne_true
  cases update with
  | swap sqrtPriceX96 tick liquidity feePips =>
    simp only [applyUpdate, validateStaticFee, bind_eq_ok, require_eq_ok] at applied
    obtain ⟨_, fee, applied⟩ := applied
    rw [if_neg notAdaptive] at applied
    simp only [bind_eq_ok, pure_eq_ok, Prod.mk.injEq] at applied
    obtain ⟨pool, swapped, rfl, _⟩ := applied
    exact bind_eq_ok.mpr ⟨(), require_of fee, swapped⟩
  | liquidity tickLower tickUpper delta =>
    simp only [applyUpdate] at applied
    rw [if_neg notAdaptive] at applied
    simp only [bind_eq_ok, pure_eq_ok, Prod.mk.injEq] at applied
    obtain ⟨pool, moved, rfl, _⟩ := applied
    exact moved
  | fee | tickSpacing | incentive => rcases kind with isSwap | isLiquidity <;> contradiction

/-! ## Whole runs -/

/-- The pool is what the logs up to its last position make of it, and those the stream has brought
are among them. -/
structure UpTo (math : UniswapV3Math) (locator : PoolLocator) (start : DexMirror) (pool : ClmmPool)
    (state : StreamState) (applied rest : List PoolLog) : Prop where
  identities : state.mirror.pools.map identity =
    start.pools.map identity
  backfilledThrough : state.mirror.backfilledThrough = start.backfilledThrough
  located : ∃ index hydrated, state.mirror.locate locator = some (index, hydrated) ∧
    replayCanonical math pool applied = .ok hydrated.pool
  past : ∀ entry ∈ applied, ∃ last, state.mirror.lastPositions locator = some last ∧
    ¬last < entry.position
  ahead : ∀ entry ∈ rest, ∀ last, state.mirror.lastPositions locator = some last →
    last < entry.position
  delivered : ∀ position ∈ state.delivered, ∃ entry ∈ applied, entry.position = position

section Run

open DexMirror

variable {math : UniswapV3Math} {locator : PoolLocator} {start : DexMirror} {pool reference : ClmmPool}
  {logs applied rest : List PoolLog} {state next : StreamState}

theorem UpTo.untouched (upTo : UpTo math locator start pool state applied rest)
    (untouched : Untouched locator next.mirror state.mirror)
    (delivered : next.delivered = state.delivered) :
    UpTo math locator start pool next applied rest := by
  obtain ⟨identities, backfilled, located, past, ahead, deliveredIn⟩ := upTo
  refine ⟨untouched.identities.trans identities, untouched.backfilledThrough.trans backfilled, ?_, ?_,
    ?_, ?_⟩
  · rw [untouched.located]
    exact located
  · rw [untouched.lastPosition]
    exact past
  · rw [untouched.lastPosition]
    exact ahead
  · rw [delivered]
    exact deliveredIn

variable {entry : PoolLog}

section

variable (upTo : UpTo math locator start pool state applied rest)
include upTo

/-- A log of the pool that is taken for a copy is one of those before the last position. -/
theorem UpTo.mem_applied (split : logs = applied ++ rest) (mem : entry ∈ logs) {last : LogPosition}
    (lastIs : state.mirror.lastPositions locator = some last) (notAhead : ¬last < entry.position) :
    entry ∈ applied := by
  rw [split, mem_append] at mem
  rcases mem with before | after
  · exact before
  · exact absurd (upTo.ahead entry after last lastIs) notAhead

variable {blockTimestamp : Option Nat} {result : LogApplyResult}

section

variable (canonical : CanonicalLogs locator start logs)
include canonical

/-- A new log of the pool is applied: the logs it skips are Swaps, and then it is one too. -/
theorem UpTo.extend {skipped later : List PoolLog}
    (split : logs = applied ++ (skipped ++ entry :: later))
    (reference : replayCanonical math pool logs = .ok reference)
    (skippedSwaps : ∀ other ∈ skipped, other.update.isSwap = true)
    (hides : skipped = [] ∨ entry.update.isSwap = true)
    (new : state.mirror.applyNew math entry.log ⟨locator, entry.update⟩ blockTimestamp =
      .ok (result, next.mirror))
    (delivered : ∀ position ∈ next.delivered, position ∈ state.delivered ∨ position = entry.position) :
    UpTo math locator start pool next (applied ++ (skipped ++ [entry])) later := by
  have sorted := canonical.sorted
  rw [split] at sorted reference
  obtain ⟨_, sortedRest, appliedBefore⟩ := pairwise_append.mp sorted
  obtain ⟨_, sortedEntry, skippedBefore⟩ := pairwise_append.mp sortedRest
  obtain ⟨entryBefore, _⟩ := pairwise_cons.mp sortedEntry
  have mem : entry ∈ logs := by
    rw [split]
    simp
  obtain ⟨index, hydrated, located, replayed⟩ := upTo.located
  obtain ⟨_, stored, _⟩ := locate_eq_some located
  have frame := applyNew_frame new
  obtain ⟨updated, pending, refresh, updates, _, nextIs⟩ := applyNew_spec located new
  have identity := applyUpdate_identity updates
  have poolIs := applyUpdate_static canonical.static (canonical.kinds entry mem) updates
  -- the canonical order reaches the same pool: the skipped Swaps are hidden by this one
  have replayedEntry : replayCanonical math pool (applied ++ (skipped ++ [entry])) =
      .ok updated.pool := by
    obtain ⟨afterApplied, replayedApplied, reference⟩ := replayCanonical_append.mp reference
    rw [replayed] at replayedApplied
    cases replayedApplied
    obtain ⟨afterSkipped, replayedSkipped, reference⟩ := replayCanonical_append.mp reference
    obtain ⟨afterEntry, appliedEntry, _⟩ := replayCanonical_cons.mp reference
    have same : updated.pool = afterEntry := by
      rcases hides with none | isSwap
      · subst none
        cases replayedSkipped
        rw [poolIs] at appliedEntry
        exact Except.ok.inj appliedEntry
      · have hidden := applyCanonical_swap_of_swaps skippedSwaps isSwap replayedSkipped appliedEntry
        rw [poolIs] at hidden
        exact Except.ok.inj hidden
    refine replayCanonical_append.mpr ⟨hydrated.pool, replayed, replayCanonical_append.mpr
      ⟨afterSkipped, replayedSkipped, replayCanonical_cons.mpr ⟨afterEntry, appliedEntry, ?_⟩⟩⟩
    rw [same]
    rfl
  have lastIs : next.mirror.lastPositions locator = some entry.position := by
    rw [nextIs]
    exact Function.update_self ..
  have upToEntry : ∀ other ∈ applied ++ (skipped ++ [entry]), ¬entry.position < other.position := by
    intro other otherMem
    rw [mem_append, mem_append, mem_singleton] at otherMem
    rcases otherMem with inApplied | inSkipped | rfl
    · exact lt_asymm (appliedBefore other inApplied entry (by simp))
    · exact lt_asymm (skippedBefore other inSkipped entry (by simp))
    · exact lt_irrefl _
  refine ⟨frame.identities.trans upTo.identities,
    frame.backfilledThrough.trans upTo.backfilledThrough, ⟨index, updated, ?_, replayedEntry⟩, ?_, ?_,
    ?_⟩
  · rw [nextIs]
    exact locate_record located identity _ _ _
  · intro other otherMem
    exact ⟨entry.position, lastIs, upToEntry other otherMem⟩
  · intro other otherMem last otherLast
    rw [lastIs] at otherLast
    cases otherLast
    exact entryBefore other otherMem
  · intro position positionMem
    rcases delivered position positionMem with before | rfl
    · obtain ⟨other, otherMem, positionIs⟩ := upTo.delivered position before
      exact ⟨other, mem_append_left _ otherMem, positionIs⟩
    · exact ⟨entry, by simp, rfl⟩

/-- A log of the pool, from the stream or a receipt, that skips only Swaps and is then a Swap. -/
theorem UpTo.own (split : logs = applied ++ rest)
    (reference : replayCanonical math pool logs = .ok reference) (mem : entry ∈ logs)
    {origin : LogOrigin}
    (appliedLog : state.mirror.applyLogInner math entry.log blockTimestamp origin =
      .ok (result, next.mirror))
    (delivered : ∀ position ∈ next.delivered, position ∈ state.delivered ∨ position = entry.position)
    (orderly : ∀ other ∈ logs, other.position < entry.position → other.position ∈ state.delivered ∨
      other.update.isSwap = true ∧ entry.update.isSwap = true) :
    ∃ applied' rest', logs = applied' ++ rest' ∧
      UpTo math locator start pool next applied' rest' := by
  have decoded := canonical.decodes entry mem
  rw [← decode_congr upTo.identities] at decoded
  obtain ⟨_, _, hydrated | ⟨_, _, copy | new⟩⟩ := applyLogInner_cases decoded appliedLog
  · have later := canonical.later entry mem
    rw [upTo.backfilledThrough] at hydrated
    omega
  · obtain ⟨duplicate, _, same⟩ := copy
    obtain ⟨last, lastIs, stands⟩ := isDuplicate_eq_true.mp duplicate
    have notAhead : ¬last < entry.position := by
      rcases stands with ⟨rfl, _⟩ | ⟨older, _⟩
      · exact lt_irrefl _
      · exact lt_asymm older
    have inApplied := upTo.mem_applied split mem lastIs notAhead
    refine ⟨applied, rest, split, ?_⟩
    obtain ⟨identities, backfilled, located, past, ahead, deliveredIn⟩ := upTo
    rw [← same] at identities backfilled located past ahead
    refine ⟨identities, backfilled, located, past, ahead, fun position positionMem => ?_⟩
    rcases delivered position positionMem with before | rfl
    · exact deliveredIn position before
    · exact ⟨entry, inApplied, rfl⟩
  · obtain ⟨fresh, appliedNew⟩ := new
    have inRest : entry ∈ rest := by
      rw [split, mem_append] at mem
      rcases mem with inApplied | inRest
      · obtain ⟨last, lastIs, notAhead⟩ := upTo.past entry inApplied
        exact absurd (isDuplicate_eq_false.mp fresh last lastIs) notAhead
      · exact inRest
    obtain ⟨skipped, later, rfl⟩ := append_of_mem inRest
    have sorted := canonical.sorted
    rw [split] at sorted
    obtain ⟨_, sortedRest, appliedBefore⟩ := pairwise_append.mp sorted
    obtain ⟨_, _, skippedBefore⟩ := pairwise_append.mp sortedRest
    -- what the stream has brought is before the last position, so a skipped log is undelivered
    have skippedSwap : ∀ other ∈ skipped,
        other.update.isSwap = true ∧ entry.update.isSwap = true := by
      intro other otherMem
      have otherIn : other ∈ logs := by
        rw [split]
        simp [otherMem]
      rcases orderly other otherIn (skippedBefore other otherMem entry (by simp)) with before | swaps
      · obtain ⟨brought, broughtMem, samePosition⟩ := upTo.delivered _ before
        have earlier := appliedBefore brought broughtMem other (by simp [otherMem])
        rw [samePosition] at earlier
        exact absurd earlier (lt_irrefl _)
      · exact swaps
    have hides : skipped = [] ∨ entry.update.isSwap = true := by
      cases skipped with
      | nil => exact Or.inl rfl
      | cons other more => exact Or.inr (skippedSwap other (mem_cons_self ..)).2
    refine ⟨applied ++ (skipped ++ [entry]), later, ?_, upTo.extend canonical split reference
      (fun other otherMem => (skippedSwap other otherMem).1) hides appliedNew delivered⟩
    rw [split]
    simp

/-- One call of a run in which no receipt overtakes a liquidity event. -/
theorem UpTo.step (split : logs = applied ++ rest)
    (reference : replayCanonical math pool logs = .ok reference) {call : StreamCall}
    (step : StreamStep math locator logs state call next) (drained : call.Drained logs state) :
    ∃ applied' rest', logs = applied' ++ rest' ∧
      UpTo math locator start pool next applied' rest' := by
  obtain ⟨allowed, appliedCall, delivered⟩ := step
  cases call with
  | deliver entry timestamp =>
    obtain ⟨⟨result, mirror⟩, appliedLog, rfl⟩ := map_eq_ok.mp appliedCall
    obtain ⟨mem, inOrder⟩ := allowed
    refine upTo.own canonical split reference mem appliedLog ?_
      (fun other otherMem before => Or.inl (inOrder other otherMem before))
    intro position positionMem
    rw [delivered] at positionMem
    rcases mem_cons.mp positionMem with isEntry | before
    · exact Or.inr isEntry
    · exact Or.inl before
  | settle entry =>
    obtain ⟨⟨result, mirror⟩, appliedReceipt, rfl⟩ := map_eq_ok.mp appliedCall
    obtain ⟨_, _, appliedLog⟩ := bind_eq_ok.mp appliedReceipt
    obtain ⟨mem, isSwap⟩ := allowed
    refine upTo.own canonical split reference mem appliedLog ?_ ?_
    · intro position positionMem
      rw [delivered] at positionMem
      exact Or.inl positionMem
    · intro other otherMem before
      rcases canonical.kinds other otherMem with otherSwap | otherLiquidity
      · exact Or.inr ⟨otherSwap, isSwap⟩
      · exact Or.inl (drained other otherMem otherLiquidity before)
  | deliverOther log timestamp =>
    obtain ⟨⟨result, mirror⟩, appliedLog, rfl⟩ := map_eq_ok.mp appliedCall
    exact ⟨applied, rest, split, upTo.untouched (Untouched.of_foreign allowed appliedLog) delivered⟩
  | settleOther log =>
    obtain ⟨⟨result, mirror⟩, appliedReceipt, rfl⟩ := map_eq_ok.mp appliedCall
    obtain ⟨_, _, appliedLog⟩ := bind_eq_ok.mp appliedReceipt
    exact ⟨applied, rest, split, upTo.untouched (Untouched.of_foreign allowed appliedLog) delivered⟩
  | head block timestamp =>
    obtain ⟨⟨result, mirror⟩, appliedHead, rfl⟩ := map_eq_ok.mp appliedCall
    exact ⟨applied, rest, split,
      upTo.untouched (Untouched.of_head canonical.static appliedHead) delivered⟩

end

end

end Run

/-- A run of allowed and accepted calls. -/
def StreamRun (math : UniswapV3Math) (locator : PoolLocator) (logs : List PoolLog) :
    StreamState → StreamState → Prop :=
  Relation.ReflTransGen fun state next => ∃ call, StreamStep math locator logs state call next

/-- A run of allowed and accepted calls in which no receipt overtakes a liquidity event. -/
def DrainedRun (math : UniswapV3Math) (locator : PoolLocator) (logs : List PoolLog) :
    StreamState → StreamState → Prop :=
  Relation.ReflTransGen fun state next =>
    ∃ call, StreamStep math locator logs state call next ∧ call.Drained logs state

theorem UpTo.run {start : DexMirror} {pool reference : ClmmPool} {logs applied rest : List PoolLog}
    {state next : StreamState} (upTo : UpTo math locator start pool state applied rest)
    (canonical : CanonicalLogs locator start logs) (split : logs = applied ++ rest)
    (reference : replayCanonical math pool logs = .ok reference)
    (ran : DrainedRun math locator logs state next) :
    ∃ applied' rest', logs = applied' ++ rest' ∧
      UpTo math locator start pool next applied' rest' := by
  induction ran with
  | refl => exact ⟨applied, rest, split, upTo⟩
  | tail _ last ih =>
    obtain ⟨before, after, splitBefore, upToBefore⟩ := ih
    obtain ⟨call, step, drained⟩ := last
    exact upToBefore.step canonical splitBefore reference step drained

/-- A static-fee pool, once the stream has brought all its logs up to some point: each has been
applied once and in order, however often the stream repeated them and whenever receipts brought a
Swap, as long as no receipt overtook a liquidity event. -/
theorem static_run_matches_canonical (math : UniswapV3Math) (locator : PoolLocator)
    (start final : DexMirror) (logs : List PoolLog) (delivered : List LogPosition) (index : Nat)
    (hydrated : HydratedPool) (reference : ClmmPool) (canonical : CanonicalLogs locator start logs)
    (located : start.locate locator = some (index, hydrated))
    (replayed : replayCanonical math hydrated.pool logs = .ok reference)
    (ran : DrainedRun math locator logs ⟨start, []⟩ ⟨final, delivered⟩)
    (complete : ∀ entry ∈ logs, entry.position ∈ delivered) :
    ∃ index' hydrated', final.locate locator = some (index', hydrated') ∧
      hydrated'.pool = reference := by
  have initial : UpTo math locator start hydrated.pool ⟨start, []⟩ [] logs :=
    ⟨rfl, rfl, ⟨index, hydrated, located, rfl⟩, nofun, canonical.ahead, nofun⟩
  obtain ⟨applied, rest, split, upTo⟩ := initial.run canonical rfl replayed ran
  -- a log that is left over was delivered, so it is one of the applied ones
  have done : rest = [] := by
    rw [eq_nil_iff_forall_not_mem]
    intro entry mem
    have inLogs : entry ∈ logs := by
      rw [split]
      exact mem_append_right _ mem
    obtain ⟨other, otherMem, samePosition⟩ := upTo.delivered _ (complete entry inLogs)
    have sorted := canonical.sorted
    rw [split] at sorted
    have earlier := (pairwise_append.mp sorted).2.2 other otherMem entry mem
    rw [samePosition] at earlier
    exact lt_irrefl _ earlier
  rw [done, append_nil] at split
  obtain ⟨index', hydrated', locatedFinal, replayedFinal⟩ := upTo.located
  rw [← split, replayed] at replayedFinal
  exact ⟨index', hydrated', locatedFinal, (Except.ok.inj replayedFinal).symm⟩

/-! ## A Mint and an own Swap after it -/

def v3Pool : HydratedPool where
  identity := .v3 3
  pool := ⟨500, 500, 10, 2 ^ 96, 0, 1000, ∅, ∅, .spacingCompressed, .static⟩
  camelotFee := none
  lynexFee := none

def v3Start : Except String DexMirror :=
  DexMirror.atEleven v3Pool

/-- Someone mints 500 over the ticks -20 to 20. -/
def someMint : PoolLog where
  log := ⟨3, [v3MintTopic, 1, BitVec.ofInt 256 (-20), 20],
    abiWord 1 ++ abiWord 500 ++ abiWord 7 ++ abiWord 7, 11, 11, 2, 1, false⟩
  update := .liquidity (-20) 20 500

/-- The own Swap, in the next transaction of the block. -/
def ownSwap : PoolLog where
  log := ⟨3, [v3SwapTopic, 1, 2],
    abiWord 4 ++ abiWord (-9) ++ abiWord (2 ^ 96 + 1) ++ abiWord 1500 ++ abiWord 1, 11, 11, 3, 1,
    false⟩
  update := .swap (2 ^ 96 + 1) 1 1500 none

def v3Mirror : DexMirror :=
  v3Start.toOption.getD noPools

theorem v3Mirror_canonical : CanonicalLogs (.v3 3) v3Mirror [someMint, ownSwap] := by
  have mintDecodes : v3Mirror.decode someMint.log = .ok (some ⟨.v3 3, someMint.update⟩) := by
    decide +kernel
  have swapDecodes : v3Mirror.decode ownSwap.log = .ok (some ⟨.v3 3, ownSwap.update⟩) := by
    decide +kernel
  refine ⟨rfl, by decide +kernel, by decide, ?_, by decide, by decide +kernel, ?_⟩
  · intro entry mem
    simp only [mem_cons, not_mem_nil, or_false] at mem
    rcases mem with rfl | rfl
    · exact mintDecodes
    · exact swapDecodes
  · intro entry mem last lastIs
    have none_yet : v3Mirror.lastPositions (.v3 3) = none := by decide +kernel
    rw [none_yet] at lastIs
    cases lastIs

theorem v3Mirror_replays : ∃ index hydrated reference,
    v3Mirror.locate (.v3 3) = some (index, hydrated) ∧
    replayCanonical uniswapV3Math hydrated.pool [someMint, ownSwap] = .ok reference ∧
    reference.ticks.toList = [(-20, ⟨500, 500⟩), (20, ⟨500, -500⟩)] := by
  have replays : (v3Mirror.locate (.v3 3)).map (fun entry =>
      (replayCanonical uniswapV3Math entry.2.pool [someMint, ownSwap]).map
        fun pool => pool.ticks.toList) =
      some (.ok [(-20, ⟨500, 500⟩), (20, ⟨500, -500⟩)]) := by
    decide +kernel
  obtain ⟨⟨index, hydrated⟩, located, replayed⟩ := Option.map_eq_some_iff.mp replays
  obtain ⟨reference, isReference, ticks⟩ := map_eq_ok.mp replayed
  exact ⟨index, hydrated, reference, located, isReference, ticks⟩

theorem v3Start_eq : v3Start = .ok v3Mirror := by
  obtain ⟨mirror, started⟩ := exists_eq_ok (x := v3Start) (by decide +kernel)
  rw [v3Mirror, started]
  rfl

theorem none_before_someMint :
    ∀ other ∈ [someMint, ownSwap], ¬other.position < someMint.position := by decide

theorem before_ownSwap : ∀ other ∈ [someMint, ownSwap], other.position < ownSwap.position →
    other.position = someMint.position := by decide

section Steps

variable {mirror next : DexMirror}

theorem mint_delivered
    (ran : (StreamCall.deliver someMint 101).apply uniswapV3Math mirror = .ok next) :
    StreamStep uniswapV3Math (.v3 3) [someMint, ownSwap] ⟨mirror, []⟩ (.deliver someMint 101)
      ⟨next, [someMint.position]⟩ :=
  ⟨⟨by simp, fun other mem before => absurd before (none_before_someMint other mem)⟩, ran, rfl⟩

theorem swap_settled {delivered : List LogPosition}
    (ran : (StreamCall.settle ownSwap).apply uniswapV3Math mirror = .ok next) :
    StreamStep uniswapV3Math (.v3 3) [someMint, ownSwap] ⟨mirror, delivered⟩ (.settle ownSwap)
      ⟨next, delivered⟩ :=
  ⟨⟨by simp, rfl⟩, ran, rfl⟩

theorem swap_delivered
    (ran : (StreamCall.deliver ownSwap 101).apply uniswapV3Math mirror = .ok next) :
    StreamStep uniswapV3Math (.v3 3) [someMint, ownSwap] ⟨mirror, [someMint.position]⟩
      (.deliver ownSwap 101) ⟨next, [ownSwap.position, someMint.position]⟩ :=
  ⟨⟨by simp, fun other mem before => by simp [before_ownSwap other mem before]⟩, ran, rfl⟩

end Steps

/-- The calls one after the other. -/
def applyCalls (math : UniswapV3Math) (mirror : DexMirror) (calls : List StreamCall) :
    Except String DexMirror :=
  calls.foldlM (fun mirror call => call.apply math mirror) mirror

/-- The receipt ahead of the stream's copy of the own Swap, but after the Mint. -/
theorem receipt_after_mint : ∃ index hydrated reference final,
    v3Mirror.locate (.v3 3) = some (index, hydrated) ∧
    replayCanonical uniswapV3Math hydrated.pool [someMint, ownSwap] = .ok reference ∧
    DrainedRun uniswapV3Math (.v3 3) [someMint, ownSwap] ⟨v3Mirror, []⟩
      ⟨final, [ownSwap.position, someMint.position]⟩ ∧
    ∃ index' hydrated', final.locate (.v3 3) = some (index', hydrated') ∧
      hydrated'.pool = reference := by
  obtain ⟨index, hydrated, reference, located, replayed, _⟩ := v3Mirror_replays
  have accepted : (applyCalls uniswapV3Math v3Mirror
      [.deliver someMint 101, .settle ownSwap, .deliver ownSwap 101]).map (fun _ => ()) = .ok () := by
    decide +kernel
  obtain ⟨final, ran, _⟩ := map_eq_ok.mp accepted
  simp only [applyCalls, foldlM_cons, foldlM_nil, bind_eq_ok, pure_eq_ok] at ran
  obtain ⟨minted, delivered, settled, receipt, copied, swapped, rfl⟩ := ran
  have drained : (StreamCall.settle ownSwap).Drained [someMint, ownSwap]
      ⟨minted, [someMint.position]⟩ :=
    fun other mem _ before => by simp [before_ownSwap other mem before]
  have run : DrainedRun uniswapV3Math (.v3 3) [someMint, ownSwap] ⟨v3Mirror, []⟩
      ⟨copied, [ownSwap.position, someMint.position]⟩ :=
    ((Relation.ReflTransGen.single ⟨_, mint_delivered delivered, trivial⟩).tail
      ⟨_, swap_settled receipt, drained⟩).tail ⟨_, swap_delivered swapped, trivial⟩
  exact ⟨index, hydrated, reference, copied, located, replayed, run,
    static_run_matches_canonical uniswapV3Math (.v3 3) v3Mirror copied _ _ index hydrated reference
      v3Mirror_canonical located replayed run (by decide)⟩

/-- The receipt ahead of the Mint: the Mint is then taken for a copy, and the pool never has the two
ticks that the logs give it. -/
theorem overtaken_mint_is_lost : ∃ index hydrated reference final index' hydrated',
    v3Start = .ok v3Mirror ∧ CanonicalLogs (.v3 3) v3Mirror [someMint, ownSwap] ∧
    v3Mirror.locate (.v3 3) = some (index, hydrated) ∧
    replayCanonical uniswapV3Math hydrated.pool [someMint, ownSwap] = .ok reference ∧
    reference.ticks.toList = [(-20, ⟨500, 500⟩), (20, ⟨500, -500⟩)] ∧
    StreamRun uniswapV3Math (.v3 3) [someMint, ownSwap] ⟨v3Mirror, []⟩
      ⟨final, [ownSwap.position, someMint.position]⟩ ∧
    final.locate (.v3 3) = some (index', hydrated') ∧ hydrated'.pool.ticks.toList = [] := by
  obtain ⟨index, hydrated, reference, located, replayed, ticks⟩ := v3Mirror_replays
  have accepted : (applyCalls uniswapV3Math v3Mirror
      [.settle ownSwap, .deliver someMint 101, .deliver ownSwap 101]).map (fun final =>
        (final.locate (.v3 3)).map fun entry => entry.2.pool.ticks.toList) = .ok (some []) := by
    decide +kernel
  obtain ⟨final, ran, lost⟩ := map_eq_ok.mp accepted
  obtain ⟨⟨index', hydrated'⟩, locatedFinal, noTicks⟩ := Option.map_eq_some_iff.mp lost
  simp only [applyCalls, foldlM_cons, foldlM_nil, bind_eq_ok, pure_eq_ok] at ran
  obtain ⟨settled, receipt, minted, delivered, copied, swapped, rfl⟩ := ran
  have run : StreamRun uniswapV3Math (.v3 3) [someMint, ownSwap] ⟨v3Mirror, []⟩
      ⟨copied, [ownSwap.position, someMint.position]⟩ :=
    ((Relation.ReflTransGen.single ⟨_, swap_settled receipt⟩).tail
      ⟨_, mint_delivered delivered⟩).tail ⟨_, swap_delivered swapped⟩
  exact ⟨index, hydrated, reference, copied, index', hydrated', v3Start_eq, v3Mirror_canonical,
    located, replayed, ticks, run, locatedFinal, noTicks⟩

end PolyBot.Dex
