import PolyBot.Dex.Mirror

/-!
# What a call does to the mirror

* `DexMirror.SameFrame`: what no log and no publication changes, and with it how a log is routed and
  decoded.
* `DexMirror.applyLogInner_cases`: a log that is accepted was hydrated already, is a copy, or is
  applied to its pool.
* `DexMirror.applyNew_spec`: an applied log is recorded as the pool's last one.
-/

namespace PolyBot.Dex

open HydratedPool List

namespace HydratedPool

variable {math : UniswapV3Math} {hydrated next : HydratedPool} {locator : PoolLocator}

@[simp] theorem withAdaptiveFee_identity (fee : HydratedFee) :
    (hydrated.withAdaptiveFee fee locator).identity = hydrated.identity := by
  cases locator <;> rfl

variable {timestamp : Nat} {changed : Bool}

theorem applyFeeTimepoint_identity {emitted : DirectionalFees}
    (applied : hydrated.applyFeeTimepoint locator timestamp emitted = .ok next) :
    next.identity = hydrated.identity := by
  simp only [applyFeeTimepoint, bind_eq_ok, pure_eq_ok] at applied
  obtain ⟨_, _, _, _, rfl⟩ := applied
  exact withAdaptiveFee_identity _

variable {blockTimestamp : Option Nat} {log : ChainLog} {pending : Option PendingAdaptiveFee}

theorem applyAdaptiveSwap_identity {sqrtPriceX96 liquidity : Nat} {tick : Int}
    (applied : hydrated.applyAdaptiveSwap locator log blockTimestamp pending sqrtPriceX96 tick
      liquidity = .ok next) : next.identity = hydrated.identity := by
  simp only [applyAdaptiveSwap, bind_eq_ok, pure_eq_ok] at applied
  obtain ⟨_, _, _, _, _, _, _, _, _, _, rfl⟩ := applied
  exact withAdaptiveFee_identity _

theorem applyAdaptiveLiquidity_identity {tickLower tickUpper delta : Int}
    (applied : hydrated.applyAdaptiveLiquidity math locator log blockTimestamp pending tickLower
      tickUpper delta = .ok next) : next.identity = hydrated.identity := by
  simp only [applyAdaptiveLiquidity, bind_eq_ok] at applied
  obtain ⟨_, _, _, _, _, _, _, _, applied⟩ := applied
  split at applied
  · simp only [applyAdaptiveLiquidityHead, bind_eq_ok, pure_eq_ok] at applied
    obtain ⟨_, _, _, _, rfl⟩ := applied
    exact withAdaptiveFee_identity _
  · cases applied
    rfl

/-- An event does not change whose pool it is. -/
theorem applyUpdate_identity {pending' : Option PendingAdaptiveFee} {refresh : Bool}
    {update : PoolUpdate}
    (applied : hydrated.applyUpdate math locator log blockTimestamp pending update =
      .ok (next, pending', refresh)) : next.identity = hydrated.identity := by
  cases update with
  | swap sqrtPriceX96 tick liquidity feePips =>
    simp only [applyUpdate, bind_eq_ok] at applied
    obtain ⟨_, _, applied⟩ := applied
    split at applied
    · simp only [bind_eq_ok, pure_eq_ok, Prod.mk.injEq] at applied
      obtain ⟨_, swapped, rfl, _⟩ := applied
      exact applyAdaptiveSwap_identity swapped
    · simp only [bind_eq_ok, pure_eq_ok, Prod.mk.injEq] at applied
      obtain ⟨_, _, rfl, _⟩ := applied
      rfl
  | liquidity tickLower tickUpper delta =>
    simp only [applyUpdate] at applied
    split at applied
    · simp only [bind_eq_ok, pure_eq_ok, Prod.mk.injEq] at applied
      obtain ⟨_, moved, rfl, _⟩ := applied
      exact applyAdaptiveLiquidity_identity moved
    · simp only [bind_eq_ok, pure_eq_ok, Prod.mk.injEq] at applied
      obtain ⟨_, _, rfl, _⟩ := applied
      rfl
  | fee zeroForOne oneForZero =>
    simp only [applyUpdate, applyFee, bind_eq_ok, pure_eq_ok, Prod.mk.injEq] at applied
    obtain ⟨_, ⟨_, _, _, _, _, _, _, _, _, installed, rfl⟩, rfl, _⟩ := applied
    exact applyFeeTimepoint_identity installed
  | tickSpacing | incentive => simp [applyUpdate] at applied

theorem refreshAdaptiveAlgebraEnvelope_identity
    (refreshed : hydrated.refreshAdaptiveAlgebraEnvelope = .ok (next, changed)) :
    next.identity = hydrated.identity := by
  unfold refreshAdaptiveAlgebraEnvelope at refreshed
  split at refreshed
  · simp only [bind_eq_ok, pure_eq_ok, Prod.mk.injEq] at refreshed
    obtain ⟨_, _, _, _, rfl, _⟩ := refreshed
    rfl
  · simp only [bind_eq_ok, pure_eq_ok, Prod.mk.injEq] at refreshed
    obtain ⟨_, _, _, _, _, _, rfl, _⟩ := refreshed
    rfl
  · cases refreshed

theorem advanceHead_identity (moved : hydrated.advanceHead timestamp = .ok (next, changed)) :
    next.identity = hydrated.identity := by
  unfold advanceHead at moved
  split at moved
  case h_3 => cases moved
  all_goals
    obtain ⟨_, _, refreshed⟩ := bind_eq_ok.mp moved
    have identity := refreshAdaptiveAlgebraEnvelope_identity refreshed
    exact identity

end HydratedPool

namespace DexMirror

variable {math : UniswapV3Math} {mirror next : DexMirror}

/-- What no log and no publication changes: which pools there are, and the canonical frontier. -/
structure SameFrame (a b : DexMirror) : Prop where
  identities : a.pools.map identity = b.pools.map identity
  backfilledThrough : a.backfilledThrough = b.backfilledThrough
  backfillComplete : a.backfillComplete = b.backfillComplete
  latestHead : a.latestHead = b.latestHead
  recentHeadTimestamps : a.recentHeadTimestamps = b.recentHeadTimestamps

theorem SameFrame.refl (a : DexMirror) : SameFrame a a :=
  ⟨rfl, rfl, rfl, rfl, rfl⟩

theorem SameFrame.trans {a b c : DexMirror} (ab : SameFrame a b) (bc : SameFrame b c) :
    SameFrame a c :=
  ⟨ab.identities.trans bc.identities, ab.backfilledThrough.trans bc.backfilledThrough,
    ab.backfillComplete.trans bc.backfillComplete, ab.latestHead.trans bc.latestHead,
    ab.recentHeadTimestamps.trans bc.recentHeadTimestamps⟩

theorem hasPool_eq (locator : PoolLocator) :
    mirror.hasPool locator = (mirror.pools.map identity).any (· = locator) := by
  unfold hasPool
  rw [any_map]
  rfl

theorem poolIndex_eq (locator : PoolLocator) : mirror.poolIndex locator =
    (mirror.pools.map identity).findIdx? (· = locator) := by
  unfold poolIndex
  rw [findIdx?_map]
  rfl

section Identities

variable {a b : DexMirror}
  (same : a.pools.map identity = b.pools.map identity)
include same

theorem hasPool_congr (locator : PoolLocator) : a.hasPool locator = b.hasPool locator := by
  rw [hasPool_eq, hasPool_eq, same]

theorem poolIndex_congr (locator : PoolLocator) : a.poolIndex locator = b.poolIndex locator := by
  rw [poolIndex_eq, poolIndex_eq, same]

theorem locatorHint_congr (address : Address) : a.locatorHint address = b.locatorHint address := by
  have pools : a.hasPool = b.hasPool := funext (hasPool_congr same)
  unfold locatorHint
  rw [pools]

/-- How a log is decoded depends only on which pools there are. -/
theorem decode_congr (log : ChainLog) : a.decode log = b.decode log := by
  unfold decode
  rw [locatorHint_congr same]

end Identities

section Frame

variable {a b : DexMirror} (same : SameFrame a b)
include same

theorem SameFrame.requireHead (number : Nat) (hash : B256) (early changed : String) :
    a.requireHead number hash early changed = b.requireHead number hash early changed := by
  unfold DexMirror.requireHead
  rw [same.backfillComplete, same.latestHead]

theorem SameFrame.canonicalTimestampForLog (log : ChainLog) :
    a.canonicalTimestampForLog log = b.canonicalTimestampForLog log := by
  unfold DexMirror.canonicalTimestampForLog
  rw [same.recentHeadTimestamps]

end Frame

/-! ## The pool of a locator -/

variable {hydrated replaced : HydratedPool} {index : Nat} {locator : PoolLocator}
  {blockTimestamp : Option Nat} {event : DecodedPoolEvent} {log : ChainLog}
  {result : LogApplyResult}

theorem locate_eq_some (located : mirror.locate locator = some (index, hydrated)) :
    mirror.poolIndex locator = some index ∧ mirror.pools[index]? = some hydrated ∧
      hydrated.identity = locator := by
  simp only [locate, Option.bind_eq_some_iff, Option.map_eq_some_iff, Prod.mk.injEq] at located
  obtain ⟨found, indexed, pool, stored, rfl, rfl⟩ := located
  refine ⟨indexed, stored, ?_⟩
  obtain ⟨bound, matching, _⟩ := findIdx?_eq_some_iff_getElem.mp indexed
  obtain ⟨_, rfl⟩ := List.getElem?_eq_some_iff.mp stored
  exact of_decide_eq_true matching

theorem exists_locate (has : mirror.hasPool locator = true) :
    ∃ index hydrated, mirror.locate locator = some (index, hydrated) := by
  obtain ⟨index, indexed⟩ : ∃ index, mirror.poolIndex locator = some index := by
    rw [← Option.isSome_iff_exists]
    unfold poolIndex
    rw [findIdx?_isSome]
    exact has
  obtain ⟨bound, _, _⟩ := findIdx?_eq_some_iff_getElem.mp indexed
  refine ⟨index, mirror.pools.get ⟨index, bound⟩, ?_⟩
  simp [locate, indexed, getElem?_eq_getElem bound]

/-- A pool replaced by one of the same identity leaves the frame. -/
theorem map_identity_set (stored : mirror.pools[index]? = some hydrated)
    (same : replaced.identity = hydrated.identity) :
    (mirror.pools.set index replaced).map identity =
      mirror.pools.map identity := by
  rw [map_set, same]
  apply ext_getElem?
  intro other
  by_cases at_index : other = index
  · subst at_index
    have bound : other < (mirror.pools.map identity).length := by
      rw [length_map]
      exact (List.getElem?_eq_some_iff.mp stored).1
    rw [List.getElem?_set_self bound, List.getElem?_map, stored]
    rfl
  · rw [getElem?_set_ne (Ne.symm at_index)]

theorem record_frame (stored : mirror.pools[index]? = some hydrated)
    (same : replaced.identity = hydrated.identity) (pending : Option PendingAdaptiveFee)
    (position : LogPosition) (blockHash : B256) :
    SameFrame (mirror.record locator index replaced pending position blockHash) mirror :=
  ⟨map_identity_set stored same, rfl, rfl, rfl, rfl⟩

/-- The recorded pool is found again. -/
theorem locate_record (located : mirror.locate locator = some (index, hydrated))
    (same : replaced.identity = hydrated.identity) (pending : Option PendingAdaptiveFee)
    (position : LogPosition) (blockHash : B256) :
    (mirror.record locator index replaced pending position blockHash).locate locator =
      some (index, replaced) := by
  obtain ⟨indexed, stored, _⟩ := locate_eq_some located
  obtain ⟨bound, _⟩ := List.getElem?_eq_some_iff.mp stored
  have stays : (mirror.record locator index replaced pending position blockHash).poolIndex locator =
      some index := by
    rw [poolIndex_congr (record_frame stored same pending position blockHash).identities]
    exact indexed
  simp only [locate, stays, Option.bind_some]
  simp [record, bound]

/-- A pool set at another index leaves the pool of `locator`. -/
theorem locate_set_ne (stored : mirror.pools[index]? = some hydrated)
    (other : hydrated.identity ≠ locator) (same : replaced.identity = hydrated.identity) :
    ({ mirror with pools := mirror.pools.set index replaced } : DexMirror).locate locator =
      mirror.locate locator := by
  have identities := map_identity_set stored same
  have stays : ({ mirror with pools := mirror.pools.set index replaced } : DexMirror).poolIndex
      locator = mirror.poolIndex locator := poolIndex_congr identities locator
  simp only [locate, stays]
  cases indexed : mirror.poolIndex locator with
  | none => rfl
  | some found =>
    -- the pool found for the locator has its identity, so it is at another index
    obtain ⟨bound, matching, _⟩ := findIdx?_eq_some_iff_getElem.mp indexed
    have apart : index ≠ found := by
      rintro rfl
      obtain ⟨_, rfl⟩ := List.getElem?_eq_some_iff.mp stored
      exact other (of_decide_eq_true matching)
    simp only [Option.bind_some]
    rw [getElem?_set_ne apart]

/-- A publication changes only the pool it is for. -/
theorem refreshPoolForPublication_spec {changed : Bool}
    (refreshed : mirror.refreshPoolForPublication index = .ok (changed, next)) :
    SameFrame next mirror ∧ next.lastPositions = mirror.lastPositions ∧
      next.lastBlockHashes = mirror.lastBlockHashes := by
  simp only [refreshPoolForPublication, bind_eq_ok, orError_eq_ok] at refreshed
  obtain ⟨hydrated, stored, refreshed⟩ := refreshed
  split at refreshed
  · simp only [bind_eq_ok, pure_eq_ok, Prod.mk.injEq] at refreshed
    obtain ⟨⟨published, _⟩, envelope, _, rfl⟩ := refreshed
    have identity := refreshAdaptiveAlgebraEnvelope_identity envelope
    exact ⟨⟨map_identity_set stored identity, rfl, rfl, rfl, rfl⟩, rfl, rfl⟩
  · cases refreshed
    exact ⟨SameFrame.refl _, rfl, rfl⟩

/-! ## One log -/

variable {blockHash : B256} {position : LogPosition}

theorem isDuplicate_eq_true :
    mirror.isDuplicate locator position blockHash = .ok true ↔
      ∃ last, mirror.lastPositions locator = some last ∧
        ((position = last ∧
            (locator.isAdaptive = true → mirror.lastBlockHashes locator = some blockHash)) ∨
          (position < last ∧ locator.isAdaptive = false)) := by
  unfold isDuplicate
  cases recorded : mirror.lastPositions locator with
  | none => simp
  | some last =>
    simp only [Option.some.injEq, exists_eq_left']
    by_cases same : position = last
    · subst same
      simp [require_eq_ok, LogPosition.lt_irrefl]
    · by_cases older : position < last ∧ locator.isAdaptive = false
      · simp [same, older]
      · simp [same, older]

/-- An event is new when it stands after the last one of its pool. -/
theorem isDuplicate_eq_false :
    mirror.isDuplicate locator position blockHash = .ok false ↔
      ∀ last, mirror.lastPositions locator = some last → last < position := by
  unfold isDuplicate
  cases recorded : mirror.lastPositions locator with
  | none => simp
  | some last =>
    simp only [Option.some.injEq, forall_eq']
    by_cases same : position = last
    · subst same
      simp [LogPosition.lt_irrefl]
    · by_cases older : position < last ∧ locator.isAdaptive = false
      · have notLater := LogPosition.lt_asymm older.1
        simp [same, older, notLater]
      · simp [same, older, require_eq_ok]

/-- An applied log belongs to a known pool and is recorded as its last one. -/
theorem applyNew_spec (located : mirror.locate event.locator = some (index, hydrated))
    (applied : mirror.applyNew math log event blockTimestamp = .ok (result, next)) :
    ∃ updated pending refresh,
      hydrated.applyUpdate math event.locator log blockTimestamp (mirror.pendingAdaptiveFees index)
        event.update = .ok (updated, pending, refresh) ∧
      result = .applied index event.kind refresh ∧
      next = mirror.record event.locator index updated pending log.position log.blockHash := by
  simp only [applyNew, located, bind_eq_ok, pure_eq_ok, Prod.mk.injEq] at applied
  obtain ⟨⟨updated, pending, refresh⟩, updates, rfl, rfl⟩ := applied
  exact ⟨updated, pending, refresh, updates, rfl, rfl⟩

theorem applyNew_frame
    (applied : mirror.applyNew math log event blockTimestamp = .ok (result, next)) :
    SameFrame next mirror := by
  cases located : mirror.locate event.locator with
  | none =>
    simp only [applyNew, located] at applied
    cases applied
    exact SameFrame.refl _
  | some found =>
    obtain ⟨index, hydrated⟩ := found
    obtain ⟨updated, pending, refresh, updates, _, rfl⟩ := applyNew_spec located applied
    obtain ⟨_, stored, _⟩ := locate_eq_some located
    exact record_frame stored (applyUpdate_identity updates) _ _ _

/-- A log that decodes to `event` and is accepted: hydrated already, a copy, or applied. -/
theorem applyLogInner_cases {origin : LogOrigin} (decoded : mirror.decode log = .ok (some event))
    (applied : mirror.applyLogInner math log blockTimestamp origin = .ok (result, next)) :
    log.removed = false ∧ mirror.requireLogHead log origin = .ok () ∧
    ((log.blockNumber ≤ mirror.backfilledThrough ∧ result = .duplicate ∧ next = mirror) ∨
      (mirror.backfilledThrough < log.blockNumber ∧
        (origin = .receiptSettlement → event.update.isSwap = true) ∧
        ((mirror.isDuplicate event.locator log.position log.blockHash = .ok true ∧
            result = .duplicate ∧ next = mirror) ∨
          (mirror.isDuplicate event.locator log.position log.blockHash = .ok false ∧
            mirror.applyNew math log event blockTimestamp = .ok (result, next))))) := by
  simp only [applyLogInner, bind_eq_ok, require_eq_ok] at applied
  obtain ⟨_, kept, _, head, applied⟩ := applied
  refine ⟨kept, head, ?_⟩
  split at applied
  · rename_i hydrated
    cases applied
    exact Or.inl ⟨hydrated, rfl, rfl⟩
  · rename_i later
    simp only [applyDecoded, applyEvent, decoded, bind_eq_ok, require_eq_ok, Except.ok.injEq,
      exists_eq_left'] at applied
    obtain ⟨_, isSwap, duplicate, found, applied⟩ := applied
    refine Or.inr ⟨Nat.lt_of_not_le later, isSwap, ?_⟩
    split at applied
    · rename_i copy
      cases applied
      rw [copy] at found
      exact Or.inl ⟨found, rfl, rfl⟩
    · rename_i fresh
      rw [Bool.not_eq_true] at fresh
      rw [fresh] at found
      exact Or.inr ⟨found, applied⟩

/-- A copy of a pool's last event changes nothing. -/
theorem applyLogInner_copy (decoded : mirror.decode log = .ok (some event))
    (kept : log.removed = false) (head : mirror.requireLogHead log .canonicalStream = .ok ())
    (last : mirror.lastPositions event.locator = some log.position)
    (hash : mirror.lastBlockHashes event.locator = some log.blockHash) :
    mirror.applyLogInner math log blockTimestamp .canonicalStream = .ok (.duplicate, mirror) := by
  have copy : mirror.isDuplicate event.locator log.position log.blockHash = .ok true :=
    isDuplicate_eq_true.mpr ⟨log.position, last, Or.inl ⟨rfl, fun _ => hash⟩⟩
  simp only [applyLogInner, bind_eq_ok, require_eq_ok]
  refine ⟨(), kept, (), head, ?_⟩
  split
  · rfl
  · simp only [applyDecoded, applyEvent, decoded, bind_eq_ok, require_eq_ok, Except.ok.injEq,
      exists_eq_left']
    exact ⟨(), by simp, true, copy, rfl⟩

end DexMirror

end PolyBot.Dex
