import PolyBot.Dex.Settlement
import PolyBot.Opportunity.Agreement
import PolyBot.Opportunity.Refresh

/-!
# The engine around the curves

The engine's task owns the mirror and the opportunity engine and writes the preflight's state; the
execution task reads that state at any moment.  An event that changes a pool starts a new generation
of its curves at once, but the preflight hears of the pool only when the rebuilt curves have been
published.

* `Runtime.step`: the calls of the engine.  The publication of a build is two of them, since the
  preflight can be asked in between.
* `Handed`: published curves are of their pool's generation, and the preflight has them.
* `preflight_accepts_current_curves_of_published_pool`: so the curves that a check has accepted are
  those of the engine's generation, if the pool is published when it is made.
* `preflight_accepts_stale_curves_during_rebuild`: during a rebuild they are the superseded ones.
-/

namespace PolyBot.Opportunity

open OpportunityEngine

open PolyBot.Dex (AdaptiveFeeReceiptProof CanonicalBlock ChainLog ChangedPool DexMirror UniswapV3Math)
open PolyBot.Trade (ArbitrageDirection)

/-! ## The engine -/

/-- The engine with what is under way.  `publishing` is the pool whose curves have been published but
not yet handed to the preflight. -/
structure Runtime where
  pairs : List PairConfig
  listings : List PoolListing
  dex : DexMirror
  headReceivedAt : Nat
  world : World
  entryPreflight : EntryPreflightState
  publishing : Option Nat

/-- The pools of a mirror with what hydration knows of them. -/
def listedPools (listings : List PoolListing) (dex : DexMirror) : List ListedPool :=
  List.zipWith (fun listing hydrated => ⟨listing, hydrated⟩) listings dex.pools

/-- The pair of a pool. -/
def domainPair (pairs : List PairConfig) (listing : PoolListing) : Except String PairConfig :=
  let pairId := listing.pairId
  orError (pairs.find? fun pair => pair.id = pairId) s!"DEX pool {pairId} has no domain pair"

/-- Hands the published curves of a pool to the preflight. -/
def refreshPreflightDexPool (pairs : List PairConfig) (listings : List PoolListing)
    (engine : OpportunityEngine) (poolIndex : Nat) (state : EntryPreflightState) :
    Except String EntryPreflightState := do
  let listing ← orError listings[poolIndex]? "DEX pool index is invalid"
  let pair ← domainPair pairs listing
  let generation ← engine.poolGeneration poolIndex
  let feeGeneration ← engine.poolFeeGeneration poolIndex
  let prepared ← engine.preflightExactInputCurves poolIndex
  let curves ← orError prepared "prepared DEX pool is unavailable for preflight"
  return state.updateDexPoolWithFeeGeneration listing.pairId poolIndex generation feeGeneration
    pair.tokenA.decimals pair.tokenB.decimals curves

/-- Hands the first curves of a pool to the preflight. -/
def initialPreflightDexPool (pairs : List PairConfig) (listings : List PoolListing)
    (engine : OpportunityEngine) (state : EntryPreflightState) (poolIndex : Nat) :
    Except String EntryPreflightState := do
  let listing ← orError listings[poolIndex]? "DEX pool index is invalid"
  let pair ← domainPair pairs listing
  let prepared ← engine.preflightExactInputCurves poolIndex
  let curves ← orError prepared "initial prepared DEX pool is unavailable for preflight"
  let generation ← engine.poolGeneration poolIndex
  let feeGeneration ← engine.poolFeeGeneration poolIndex
  return state.updateDexPoolWithFeeGeneration listing.pairId poolIndex generation feeGeneration
    pair.tokenA.decimals pair.tokenB.decimals curves

/-- What the engine is started with beside the mirror. -/
structure RuntimeConfig where
  pairs : List PairConfig
  dexHeadMaxAgeMs : Nat
  maxTransportSilenceMs : List (String × Nat)

/-- The preflight before the first pool is handed to it. -/
def initialPreflight (config : RuntimeConfig) (headReceivedAt : Nat) : EntryPreflightState :=
  let configured := config.maxTransportSilenceMs.foldl
    (fun state limit => state.configureMaxTransportSilence limit.1 limit.2)
    (EntryPreflightState.default.configureDexMaxHeadAge config.dexHeadMaxAgeMs)
  (config.pairs.filter (·.marketDataEnabled)).foldl
    (fun state pair => state.updateDexHead pair.id headReceivedAt) configured

def Runtime.new (config : RuntimeConfig) (listings : List PoolListing) (dex : DexMirror)
    (headReceivedAt : Nat) : Except String Runtime := do
  let listed := listedPools listings dex
  let engine ← OpportunityEngine.new config.pairs listed
  let preflight ← (List.range engine.poolGenerations.length).foldlM
    (initialPreflightDexPool config.pairs listings engine) (initialPreflight config headReceivedAt)
  return {
    pairs := config.pairs
    listings := listings
    dex := dex
    headReceivedAt := headReceivedAt
    world := World.start engine listed
    entryPreflight := preflight
    publishing := none }

/-! ## Calls -/

/-- What the preflight hears of the feeds. -/
inductive FeedUpdate
  | connected (symbol : String) (connectionGeneration observedAt : Nat)
  | disconnected (symbol : String) (connectionGeneration : Nat)
  | activity (symbol : String) (connectionGeneration observedAt : Nat)
  | quote (quote : ReceivedQuote)
  | dexHead (pairId : String) (receivedAt : Nat)

variable (state : EntryPreflightState)

def EntryPreflightState.hear : FeedUpdate → EntryPreflightState
  | .connected symbol generation observedAt => state.onFeedConnected symbol generation observedAt
  | .disconnected symbol generation => state.onFeedDisconnected symbol generation
  | .activity symbol generation observedAt =>
    state.recordTransportActivity symbol generation observedAt
  | .quote quote => state.updateQuote quote
  | .dexHead pairId receivedAt => state.updateDexHead pairId receivedAt

inductive RuntimeCall
  | log (log : ChainLog) (blockTimestamp : Nat)
  | head (head : CanonicalBlock) (timestamp receivedAt : Nat)
  | settlement (target : ChainLog) (fee : Option AdaptiveFeeReceiptProof) (admitted : Option Nat)
      (resumedAfterRestart : Bool)
  | queue (index : Nat)
  | popNext
  | build (index : Nat)
  | finishPoolRefresh (index : Nat)
  | refreshPreflight
  | evaluate (quote : TopOfBook)
  | feed (update : FeedUpdate)

/-- The calls that can come between the halves of a publication. -/
def RuntimeCall.betweenHalves : RuntimeCall → Bool
  | refreshPreflight | feed _ => true
  | _ => false

namespace Runtime

section Steps

variable (math : UniswapV3Math) (runtime : Runtime)

/-- The mirror after a call, and the request for the pool that it makes stale. -/
def republish : Option Nat × DexMirror → Runtime
  | (none, dex) => { runtime with dex := dex }
  | (some poolIndex, dex) => { runtime with
      dex := dex
      world := runtime.world.request poolIndex (listedPools runtime.listings dex) }

/-- An error of the mirror stops the process, and nothing follows. -/
def onMirror (result : ChangedPool) : Runtime :=
  match result with
  | .ok changed => runtime.republish changed
  | .error _ => runtime

/-- The preflight hears of the head under the first pair. -/
def noteHead (head : CanonicalBlock) (receivedAt : Nat) : Runtime :=
  let received :=
    if head.number < runtime.dex.latestHead.number then runtime.headReceivedAt else receivedAt
  match runtime.pairs.head? with
  | some pair => { runtime with
      headReceivedAt := received
      entryPreflight := runtime.entryPreflight.updateDexHead pair.id received }
  | none => { runtime with headReceivedAt := received }

def onHead (head : CanonicalBlock) (timestamp receivedAt : Nat) : Runtime :=
  match runtime.dex.headed head timestamp with
  | .ok changed => (runtime.noteHead head receivedAt).republish changed
  | .error _ => runtime

/-- The first half of `on_prepared_pool`: the build is published, unless it is superseded. -/
def finishPoolRefresh (runtime : Runtime) (index : Nat) : Runtime :=
  match runtime.world.results[index]? with
  | some result =>
    match (OpportunityEngine.finishPoolRefresh result).exec runtime.world.engine with
    | (.ok (some refresh), _) => { runtime with
        world := runtime.world.finish index
        publishing := some refresh.poolIndex }
    | _ => { runtime with world := runtime.world.finish index }
  | none => runtime

/-- The second half of `on_prepared_pool`. -/
def refreshPreflight : Runtime :=
  match runtime.publishing with
  | some poolIndex =>
    match refreshPreflightDexPool runtime.pairs runtime.listings runtime.world.engine poolIndex
        runtime.entryPreflight with
    | .ok state => { runtime with entryPreflight := state, publishing := none }
    | .error _ => runtime
  | none => runtime

def call : RuntimeCall → Runtime
  | .log log blockTimestamp => runtime.onMirror (runtime.dex.delivered math log blockTimestamp)
  | .head head timestamp receivedAt => runtime.onHead head timestamp receivedAt
  | .settlement target fee admitted resumed =>
    runtime.onMirror (runtime.dex.settlement math target fee admitted resumed)
  | .queue index => { runtime with world := runtime.world.queue index }
  | .popNext => { runtime with world := runtime.world.popNext }
  | .build index => { runtime with world := runtime.world.build index }
  | .finishPoolRefresh index => runtime.finishPoolRefresh index
  | .refreshPreflight => runtime.refreshPreflight
  | .evaluate quote => { runtime with world := runtime.world.step (.evaluate quote) }
  | .feed update => { runtime with entryPreflight := runtime.entryPreflight.hear update }

/-- One call.  Between the halves of a publication the engine's task makes no other; the feeds of the
other engines go on. -/
def step (call : RuntimeCall) : Runtime :=
  if runtime.publishing = none ∨ call.betweenHalves = true then runtime.call math call else runtime

end Steps

/-- The states that calls lead to. -/
inductive Reaches (math : UniswapV3Math) (start : Runtime) : Runtime → Prop
  | refl : Reaches math start start
  | call {runtime : Runtime} (reached : Reaches math start runtime) (call : RuntimeCall) :
      Reaches math start (runtime.step math call)

end Runtime

/-! ## What the calls change of the engine -/

/-- The generation of a pool goes up and its curves come down, or nothing happens. -/
theorem World.request_engine (world : World) (poolIndex : Nat) (dex : List ListedPool) :
    (world.request poolIndex dex).engine = world.engine ∨
      ∃ generation, (world.request poolIndex dex).engine =
        world.engine.refreshed poolIndex generation := by
  have spec := requestPoolRefresh_wp world.engine poolIndex dex
  unfold World.request
  unfold Proc.wp at spec
  generalize (requestPoolRefresh poolIndex dex).exec world.engine = ran at spec
  obtain ⟨failed | request, after⟩ := ran
  · rcases spec with rfl | ⟨now, _, rfl⟩
    · exact .inl rfl
    · exact .inr ⟨_, rfl⟩
  · obtain ⟨now, _, rfl, _⟩ := spec
    exact .inr ⟨_, rfl⟩

theorem World.queue_engine (world : World) (index : Nat) :
    (world.queue index).engine = world.engine := by
  unfold World.queue
  split <;> rfl

theorem World.popNext_engine (world : World) : world.popNext.engine = world.engine := by
  unfold World.popNext
  split <;> rfl

theorem World.build_engine (world : World) (index : Nat) :
    (world.build index).engine = world.engine := by
  unfold World.build
  split
  · split <;> rfl
  · rfl

theorem OpportunityEngine.evaluate_frame (engine : OpportunityEngine) (quote : TopOfBook) :
    ((evaluate quote).final engine).preparedPools = engine.preparedPools ∧
      ((evaluate quote).final engine).poolGenerations = engine.poolGenerations := by
  rw [Proc.final, evaluate, evaluateWith_exec]
  cases engine.pairIndicesBySymbol quote.symbol with
  | none => exact ⟨rfl, rfl⟩
  | some pairIndex =>
    dsimp only
    cases engine.pairs[pairIndex]? with
    | none | some => exact ⟨rfl, rfl⟩

theorem EntryPreflightState.hear_dexPools (update : FeedUpdate) :
    (state.hear update).dexPools = state.dexPools := by
  cases update with
  | connected symbol generation observedAt =>
    simp only [hear, onFeedConnected]
    split <;> rfl
  | disconnected symbol generation =>
    simp only [hear, onFeedDisconnected]
    split
    · split <;> rfl
    · rfl
  | activity symbol generation observedAt =>
    simp only [hear, recordTransportActivity]
    split
    · split <;> rfl
    · rfl
  | quote quote =>
    simp only [hear, updateQuote]
    split <;> rfl
  | dexHead pairId receivedAt =>
    simp only [hear, updateDexHead]
    split <;> rfl

/-! ## Pools that are handed over -/

/-- The preflight's pool has the curves of a publication. -/
structure PreflightDexPool.Has (pool : PreflightDexPool) (handle : PreparedCurveGenerationHandle) :
    Prop where
  generation : pool.generation = handle.generation
  feeGeneration : pool.feeGeneration =
    OpportunityEngine.feeGeneration handle.quotes.dynamicFee handle.generation
  curves : pool.exactInputByDirection = handle.quotes.exactInputByDirection

/-- Published curves are of their pool's generation. -/
def OpportunityEngine.PublishesCurrent (engine : OpportunityEngine) : Prop :=
  ∀ (poolIndex : Nat) (handle : PreparedCurveGenerationHandle),
    engine.preparedPools[poolIndex]? = some (some handle) →
      engine.poolGenerations[poolIndex]? = some handle.generation

/-- The preflight's pools are under the pairs they belong to. -/
def EntryPreflightState.Keyed (listings : List PoolListing) : Prop :=
  ∀ (pairId : String) (poolIndex : Nat) (pool : PreflightDexPool),
    state.dexPools (pairId, poolIndex) = some pool →
      ∃ listing, listings[poolIndex]? = some listing ∧ listing.pairId = pairId

/-- The preflight has the published curves of a pool. -/
def EntryPreflightState.Holds (listings : List PoolListing) (engine : OpportunityEngine)
    (poolIndex : Nat) : Prop :=
  ∀ (handle : PreparedCurveGenerationHandle) (listing : PoolListing),
    engine.preparedPools[poolIndex]? = some (some handle) → listings[poolIndex]? = some listing →
      ∃ pool, state.dexPools (listing.pairId, poolIndex) = some pool ∧ pool.Has handle

section Hands

variable {listings : List PoolListing} {engine : OpportunityEngine} {poolIndex : Nat}
  {state next : EntryPreflightState}

/-- What handing a pool over writes. -/
structure Hands (listings : List PoolListing) (engine : OpportunityEngine) (poolIndex : Nat)
    (state next : EntryPreflightState) : Prop where
  writes : ∃ listing handle pool, listings[poolIndex]? = some listing ∧
    engine.preparedPools[poolIndex]? = some (some handle) ∧ pool.Has handle ∧
    next.dexPools = Function.update state.dexPools (listing.pairId, poolIndex) (some pool)

section

variable (hands : Hands listings engine poolIndex state next)
include hands

theorem Hands.holds : next.Holds listings engine poolIndex := by
  obtain ⟨listing, handle, pool, listed, published, has, written⟩ := hands.writes
  intro handle' listing' published' listed'
  cases published.symm.trans published'
  cases listed.symm.trans listed'
  refine ⟨pool, ?_, has⟩
  rw [written, Function.update_self]

theorem Hands.holds_other {other : Nat} (apart : other ≠ poolIndex)
    (holds : state.Holds listings engine other) : next.Holds listings engine other := by
  obtain ⟨listing, _, _, _, _, _, written⟩ := hands.writes
  intro handle' listing' published' listed'
  obtain ⟨pool, found, has⟩ := holds handle' listing' published' listed'
  refine ⟨pool, ?_, has⟩
  rw [written, Function.update_of_ne (fun same => apart (congrArg Prod.snd same))]
  exact found

theorem Hands.keyed (keyed : state.Keyed listings) : next.Keyed listings := by
  obtain ⟨listing, _, _, listed, _, _, written⟩ := hands.writes
  intro pairId other pool found
  rw [written] at found
  by_cases same : (pairId, other) = (listing.pairId, poolIndex)
  · cases same
    exact ⟨listing, listed, rfl⟩
  · rw [Function.update_of_ne same] at found
    exact keyed pairId other pool found

end

section

variable (current : engine.PublishesCurrent)
include current

/-- The generations and curves that are read for a published pool are those of the publication. -/
theorem read_published {generation fee : Nat}
    {prepared : Option (ArbitrageDirection → Dex.PreparedQuoteCurve)}
    {curves : ArbitrageDirection → Dex.PreparedQuoteCurve}
    (hasGeneration : engine.poolGeneration poolIndex = .ok generation)
    (hasFee : engine.poolFeeGeneration poolIndex = .ok fee)
    (hasCurves : engine.preflightExactInputCurves poolIndex = .ok prepared)
    (present : prepared = some curves) (tokenADecimals tokenBDecimals : Nat) :
    ∃ handle, engine.preparedPools[poolIndex]? = some (some handle) ∧
      PreflightDexPool.Has ⟨generation, fee, tokenADecimals, tokenBDecimals, curves⟩ handle := by
  simp only [poolGeneration, poolFeeGeneration,
    preflightExactInputCurves, bind_eq_ok, orError_eq_ok, pure_eq_ok]
    at hasGeneration hasFee hasCurves
  obtain ⟨slot, stored, handle, rfl, rfl⟩ := hasFee
  obtain ⟨slot', stored', rfl⟩ := hasCurves
  cases stored.symm.trans stored'
  cases present
  have now := current poolIndex handle stored
  cases hasGeneration.symm.trans now
  exact ⟨handle, stored, rfl, rfl, rfl⟩

variable {pairs : List PairConfig}

theorem refreshPreflightDexPool_hands
    (refreshed : refreshPreflightDexPool pairs listings engine poolIndex state = .ok next) :
    Hands listings engine poolIndex state next := by
  simp only [refreshPreflightDexPool, bind_eq_ok, orError_eq_ok, pure_eq_ok] at refreshed
  obtain ⟨listing, listed, pair, _, generation, hasGeneration, fee, hasFee, prepared, hasCurves,
    curves, present, rfl⟩ := refreshed
  obtain ⟨handle, published, has⟩ := read_published current hasGeneration hasFee hasCurves present
    pair.tokenA.decimals pair.tokenB.decimals
  exact ⟨listing, handle, _, listed, published, has, rfl⟩

theorem initialPreflightDexPool_hands
    (refreshed : initialPreflightDexPool pairs listings engine state poolIndex = .ok next) :
    Hands listings engine poolIndex state next := by
  simp only [initialPreflightDexPool, bind_eq_ok, orError_eq_ok, pure_eq_ok] at refreshed
  obtain ⟨listing, listed, pair, _, prepared, hasCurves, curves, present, generation, hasGeneration,
    fee, hasFee, rfl⟩ := refreshed
  obtain ⟨handle, published, has⟩ := read_published current hasGeneration hasFee hasCurves present
    pair.tokenA.decimals pair.tokenB.decimals
  exact ⟨listing, handle, _, listed, published, has, rfl⟩

/-- After the start, every pool has been handed over. -/
theorem initial_hands {indices : List Nat}
    (keyed : state.Keyed listings)
    (handed : indices.foldlM (initialPreflightDexPool pairs listings engine) state = .ok next) :
    next.Keyed listings ∧ ∀ index, (index ∈ indices ∨ state.Holds listings engine index) →
      next.Holds listings engine index := by
  induction indices generalizing state with
  | nil =>
    cases handed
    refine ⟨keyed, ?_⟩
    intro index held
    rcases held with absent | holds
    · cases absent
    · exact holds
  | cons first rest ih =>
    rw [List.foldlM_cons, bind_eq_ok] at handed
    obtain ⟨after, initial, handed⟩ := handed
    have hands := initialPreflightDexPool_hands current initial
    obtain ⟨keyedNext, holds⟩ := ih (hands.keyed keyed) handed
    refine ⟨keyedNext, ?_⟩
    intro index held
    apply holds index
    by_cases same : index = first
    · subst same
      exact .inr hands.holds
    · rcases held with mem | before
      · exact .inl ((List.mem_cons.mp mem).resolve_left same)
      · exact .inr (hands.holds_other same before)

end

end Hands

/-! ## The invariant -/

/-- Published curves are of their pool's generation, and the preflight has them unless they are just
being handed over. -/
structure Handed (runtime : Runtime) : Prop where
  current : runtime.world.engine.PublishesCurrent
  keyed : runtime.entryPreflight.Keyed runtime.listings
  held : ∀ poolIndex, runtime.publishing ≠ some poolIndex →
    runtime.entryPreflight.Holds runtime.listings runtime.world.engine poolIndex

namespace Handed

variable {runtime : Runtime} {other poolIndex : Nat} {engine : OpportunityEngine}

/-- The curves of the other pools stay. -/
theorem published_of_set {preparedPools : PreparedPools}
    {slot : Option PreparedCurveGenerationHandle} {handle : PreparedCurveGenerationHandle}
    (published : (preparedPools.set poolIndex slot)[other]? = some (some handle)) :
    (other = poolIndex ∧ slot = some handle) ∨
      (other ≠ poolIndex ∧ preparedPools[other]? = some (some handle)) := by
  by_cases same : poolIndex = other
  · subst same
    rw [List.getElem?_set] at published
    simp only [if_true] at published
    split at published
    · exact .inl ⟨rfl, Option.some.inj published⟩
    · cases published
  · rw [List.getElem?_set_ne same] at published
    exact .inr ⟨fun eq => same eq.symm, published⟩

theorem refreshed (current : engine.PublishesCurrent) (poolIndex generation : Nat) :
    (engine.refreshed poolIndex generation).PublishesCurrent := by
  intro other handle published
  rcases published_of_set published with ⟨_, gone⟩ | ⟨apart, old⟩
  · cases gone
  · change (engine.poolGenerations.set poolIndex generation)[other]? = _
    rw [List.getElem?_set_ne (Ne.symm apart)]
    exact current other handle old

/-- A pool that is taken down leaves the others. -/
theorem holds_refreshed {listings : List PoolListing} {state : EntryPreflightState}
    {generation : Nat} (holds : state.Holds listings engine other) :
    state.Holds listings (engine.refreshed poolIndex generation) other := by
  intro handle listing published listed
  rcases published_of_set published with ⟨_, gone⟩ | ⟨_, old⟩
  · cases gone
  · exact holds handle listing old listed

section

variable (handed : Handed runtime)
include handed

theorem republish (changed : Option Nat × DexMirror) : Handed (runtime.republish changed) := by
  obtain ⟨poolIndex | poolIndex, dex⟩ := changed
  · exact ⟨handed.current, handed.keyed, handed.held⟩
  · have change := runtime.world.request_engine poolIndex (listedPools runtime.listings dex)
    suffices kept : (World.request _ _ _).engine.PublishesCurrent ∧
        ∀ other, runtime.publishing ≠ some other → runtime.entryPreflight.Holds runtime.listings
          (World.request _ _ _).engine other from ⟨kept.1, handed.keyed, kept.2⟩
    rcases change with same | ⟨generation, down⟩
    · rw [same]
      exact ⟨handed.current, handed.held⟩
    · rw [down]
      exact ⟨refreshed handed.current poolIndex generation,
        fun other apart => holds_refreshed (handed.held other apart)⟩

theorem onMirror (result : ChangedPool) :
    Handed (runtime.onMirror result) := by
  cases result with
  | ok changed => exact handed.republish changed
  | error _ => exact handed

/-- What the preflight hears beside its pools does not matter. -/
theorem of_preflight {state : EntryPreflightState}
    (same : state.dexPools = runtime.entryPreflight.dexPools) :
    Handed { runtime with entryPreflight := state } := by
  refine ⟨handed.current, ?_, ?_⟩
  · intro pairId poolIndex pool found
    rw [same] at found
    exact handed.keyed pairId poolIndex pool found
  · intro poolIndex apart handle listing published listed
    rw [same]
    exact handed.held poolIndex apart handle listing published listed

theorem noteHead (head : CanonicalBlock) (receivedAt : Nat) :
    Handed (runtime.noteHead head receivedAt) := by
  unfold Runtime.noteHead
  generalize (if head.number < runtime.dex.latestHead.number then runtime.headReceivedAt
    else receivedAt) = received
  cases runtime.pairs.head? with
  | none => exact ⟨handed.current, handed.keyed, handed.held⟩
  | some pair =>
    have noted := handed.of_preflight
      (runtime.entryPreflight.hear_dexPools (.dexHead pair.id received))
    exact ⟨noted.current, noted.keyed, noted.held⟩

theorem onHead (head : CanonicalBlock) (timestamp receivedAt : Nat) :
    Handed (runtime.onHead head timestamp receivedAt) := by
  unfold Runtime.onHead
  split
  · exact (handed.noteHead head receivedAt).republish _
  · exact handed

/-- Calls on what is under way leave the published curves. -/
theorem of_world {world : World}
    (prepared : world.engine.preparedPools = runtime.world.engine.preparedPools)
    (generations : world.engine.poolGenerations = runtime.world.engine.poolGenerations) :
    Handed { runtime with world := world } := by
  refine ⟨?_, handed.keyed, ?_⟩
  · intro poolIndex handle published
    rw [generations]
    exact handed.current poolIndex handle (prepared ▸ published)
  · intro poolIndex apart handle listing published listed
    exact handed.held poolIndex apart handle listing (prepared ▸ published) listed

theorem finishPoolRefresh (index : Nat) (idle : runtime.publishing = none) :
    Handed (runtime.finishPoolRefresh index) := by
  unfold Runtime.finishPoolRefresh
  split
  · rename_i result held
    have spec := finishPoolRefresh_wp runtime.world.engine result
    have final : (runtime.world.finish index).engine =
        ((OpportunityEngine.finishPoolRefresh result).exec runtime.world.engine).2 := by
      simp only [World.finish, held]
      rfl
    unfold Proc.wp at spec
    generalize (OpportunityEngine.finishPoolRefresh result).exec runtime.world.engine = ran
      at spec final
    obtain ⟨failed | refresh, after⟩ := ran
    · cases spec
      exact handed.of_world (by rw [final]) (by rw [final])
    · rcases spec with ⟨rfl, rfl⟩ | ⟨quotes, _, known, rfl, rfl⟩
      · exact handed.of_world (by rw [final]) (by rw [final])
      · dsimp only
        constructor
        · intro other handle published
          dsimp only at published ⊢
          rw [final] at published ⊢
          rcases published_of_set published with ⟨rfl, new⟩ | ⟨_, old⟩
          · cases new
            exact known
          · exact handed.current other handle old
        · exact handed.keyed
        · intro other apart handle listing published listed
          dsimp only at published
          rw [final] at published
          rcases published_of_set published with ⟨rfl, _⟩ | ⟨_, old⟩
          · exact absurd rfl apart
          · exact handed.held other (by rw [idle]; exact (nomatch ·)) handle listing old listed
  · exact handed

theorem refreshPreflight : Handed runtime.refreshPreflight := by
  unfold Runtime.refreshPreflight
  split
  · rename_i poolIndex publishing
    split
    · rename_i state refreshed
      have hands := refreshPreflightDexPool_hands handed.current refreshed
      refine ⟨handed.current, hands.keyed handed.keyed, ?_⟩
      intro other _
      by_cases same : other = poolIndex
      · subst same
        exact hands.holds
      · refine hands.holds_other same (handed.held other ?_)
        rw [publishing]
        exact fun eq => same (Option.some.inj eq).symm
    · exact handed
  · exact handed

theorem step (math : UniswapV3Math) (call : RuntimeCall) : Handed (runtime.step math call) := by
  unfold Runtime.step
  split
  · rename_i free
    cases call with
    | log | settlement => exact handed.onMirror _
    | head head timestamp receivedAt => exact handed.onHead head timestamp receivedAt
    | queue index =>
      have same := runtime.world.queue_engine index
      exact handed.of_world (by rw [same]) (by rw [same])
    | popNext =>
      have same := runtime.world.popNext_engine
      exact handed.of_world (by rw [same]) (by rw [same])
    | build index =>
      have same := runtime.world.build_engine index
      exact handed.of_world (by rw [same]) (by rw [same])
    | finishPoolRefresh index =>
      exact handed.finishPoolRefresh index (free.resolve_right Bool.false_ne_true)
    | refreshPreflight => exact handed.refreshPreflight
    | evaluate quote =>
      obtain ⟨prepared, generations⟩ := runtime.world.engine.evaluate_frame quote
      exact handed.of_world prepared generations
    | feed update => exact handed.of_preflight (runtime.entryPreflight.hear_dexPools update)
  · exact handed

end

theorem reaches {math : UniswapV3Math} {start : Runtime} (handed : Handed start)
    (reached : Runtime.Reaches math start runtime) : Handed runtime := by
  induction reached with
  | refl => exact handed
  | call _ call ih => exact ih.step math call

end Handed

theorem initialPreflight_dexPools (config : RuntimeConfig) (headReceivedAt : Nat) :
    (initialPreflight config headReceivedAt).dexPools = fun _ => none := by
  unfold initialPreflight
  have heads : ∀ (pairs : List PairConfig) (state : EntryPreflightState),
      (pairs.foldl (fun state pair => state.updateDexHead pair.id headReceivedAt) state).dexPools =
        state.dexPools := by
    intro pairs
    induction pairs with
    | nil => exact fun _ => rfl
    | cons pair rest ih =>
      intro state
      exact (ih _).trans (state.hear_dexPools (.dexHead pair.id headReceivedAt))
  have limits : ∀ (silences : List (String × Nat)) (state : EntryPreflightState),
      (silences.foldl (fun state limit => state.configureMaxTransportSilence limit.1 limit.2)
        state).dexPools = state.dexPools := by
    intro silences
    induction silences with
    | nil => exact fun _ => rfl
    | cons limit rest ih => exact fun state => ih _
  rw [heads, limits]
  rfl

theorem handed_of_new {config : RuntimeConfig} {listings : List PoolListing} {dex : DexMirror}
    {headReceivedAt : Nat} {runtime : Runtime}
    (created : Runtime.new config listings dex headReceivedAt = .ok runtime) : Handed runtime := by
  simp only [Runtime.new, bind_eq_ok, pure_eq_ok] at created
  obtain ⟨engine, isNew, preflight, handed, rfl⟩ := created
  have started := current_of_new isNew
  have current : engine.PublishesCurrent := by
    intro poolIndex handle published
    exact (started.published poolIndex handle published).1
  have empty := initialPreflight_dexPools config headReceivedAt
  have keyed : (initialPreflight config headReceivedAt).Keyed listings := by
    intro pairId poolIndex pool found
    rw [empty] at found
    cases found
  obtain ⟨keyedNext, holds⟩ := initial_hands current keyed handed
  refine ⟨current, keyedNext, ?_⟩
  intro poolIndex _ handle listing published listed
  -- a published pool has a generation, so its index has been gone through
  have bound := (List.getElem?_eq_some_iff.mp (current poolIndex handle published)).1
  exact holds poolIndex (.inl (List.mem_range.mpr bound)) handle listing published listed

/-! ## Checks -/

/-- A check that passes has found a pool of its opportunity's pair. -/
theorem EntryPreflightState.check_accepts {state : EntryPreflightState} {clock : PreflightClock}
    {opportunity : PaperOpportunity} (accepted : state.check clock opportunity = .ok none) :
    ∃ pool, state.dexPools (opportunity.pairId, opportunity.dexPoolIndex) = some pool := by
  simp only [check, bind_eq_ok] at accepted
  obtain ⟨_, _, accepted⟩ := accepted
  split at accepted
  · cases accepted
  · rename_i quote pool live
    simp only [liveInputs, bind_eq_ok, orError_eq_ok, pure_eq_ok] at live
    obtain ⟨_, _, _, _, _, _, pool', found, _⟩ := live
    exact ⟨pool', found⟩

/-- Whether a pool's curves are published and with the preflight, and none are being rebuilt. -/
def Runtime.Settled (runtime : Runtime) (poolIndex : Nat) : Prop :=
  (∃ handle, runtime.world.engine.preparedPools[poolIndex]? = some (some handle)) ∧
    runtime.publishing ≠ some poolIndex

/-- When a check passes and the curves of its pool are published at that moment, the preflight holds
the published curves, and they are of the engine's generation of the pool. -/
theorem preflight_accepts_current_curves_of_published_pool {math : UniswapV3Math}
    {config : RuntimeConfig} {listings : List PoolListing} {dex : DexMirror} {headReceivedAt : Nat}
    {start runtime : Runtime} (created : Runtime.new config listings dex headReceivedAt = .ok start)
    (reached : Runtime.Reaches math start runtime) {clock : PreflightClock}
    {opportunity : PaperOpportunity} {generation : Nat}
    (settled : runtime.Settled opportunity.dexPoolIndex)
    (known : runtime.world.engine.poolGeneration opportunity.dexPoolIndex = .ok generation)
    (accepted : runtime.entryPreflight.check clock opportunity = .ok none) :
    ∃ pool handle,
      runtime.entryPreflight.dexPools (opportunity.pairId, opportunity.dexPoolIndex) = some pool ∧
      runtime.world.engine.preparedPools[opportunity.dexPoolIndex]? = some (some handle) ∧
      pool.generation = generation ∧ handle.generation = generation ∧
      pool.exactInputByDirection = handle.quotes.exactInputByDirection := by
  have handed := (handed_of_new created).reaches reached
  obtain ⟨⟨handle, published⟩, idle⟩ := settled
  obtain ⟨found, isFound⟩ := EntryPreflightState.check_accepts accepted
  obtain ⟨listing, listed, sameId⟩ := handed.keyed _ _ found isFound
  obtain ⟨pool, isPool, has⟩ := handed.held _ idle handle listing published listed
  rw [sameId] at isPool
  simp only [poolGeneration, orError_eq_ok] at known
  cases known.symm.trans (handed.current _ handle published)
  exact ⟨pool, handle, isPool, published, has.generation, rfl, has.curves⟩

/-! ## A check during a rebuild -/

def plainMirror : Except String DexMirror :=
  DexMirror.atEleven plainPool.hydrated

/-- Half a minute of silence is allowed to the head and to the feed. -/
def plainConfig : RuntimeConfig :=
  ⟨[plainPair], 30000, [("AB", 30000)]⟩

def plainStart : Except String Runtime := do
  let dex ← plainMirror
  Runtime.new plainConfig [plainPool.toPoolListing] dex 0

/-- The price `1.008` on both sides. -/
def plainTop : TopOfBook :=
  ⟨"AB", spreadPrice, spreadPrice, spreadPrice, spreadPrice⟩

def quoted (start : Runtime) : Runtime :=
  start.step Dex.uniswapV3Math (.feed (.quote ⟨plainTop, 1, 1, 0⟩))

/-- A swap of someone else, which lowers the price of token A by two percent. -/
def adverseSwap : ChainLog :=
  ⟨3, [Dex.v3SwapTopic, 1, 2], Dex.abiWord 4 ++ Dex.abiWord (-9) ++
    Dex.abiWord 78435880889121694217608510832 ++ Dex.abiWord (10 ^ 18) ++ Dex.abiWord (-202),
    11, 11, 3, 1, false⟩

/-- The swap has been applied and the pool waits for its curves. -/
def awaitingRebuild (start : Runtime) : Runtime :=
  (quoted start).step Dex.uniswapV3Math (.log adverseSwap 101)

def rebuilt (start : Runtime) : Runtime :=
  (((awaitingRebuild start).step Dex.uniswapV3Math (.build 0)).step Dex.uniswapV3Math
    (.finishPoolRefresh 0)).step Dex.uniswapV3Math .refreshPreflight

/-- The purchase of 400 units before the swap. -/
def plainTrade : TradeEvaluation where
  poolIndex := 0
  tokenBAmount := 400
  dexTokenAAmount := 401
  cexTokenAAmount := 403
  costTokenA := 401
  proceedsTokenA := 403
  dexAmountIn := 401
  dexAmountOutMinimum := 399
  executionSlippageBps := 10
  grossProfitBpsX100 := 4987
  meetsThreshold := true

/-- Its opportunity, at the first generation. -/
def plainOpportunity : PaperOpportunity :=
  { spreadOpportunity plainTrade with
    pairId := "pair"
    symbol := "AB"
    admission := { (spreadOpportunity plainTrade).admission with opportunityThresholdBps := 20 } }

def plainClock : PreflightClock :=
  ⟨0, some 0⟩

/-- What an onlooker sees: the engine's generation of the pool, the preflight's, and the check. -/
def Runtime.observed (runtime : Runtime) :
    Except String Nat × Option Nat × Except String (Option EntryPreflightRejection) :=
  (runtime.world.engine.poolGeneration 0,
    (runtime.entryPreflight.dexPools ("pair", 0)).map (·.generation),
    runtime.entryPreflight.check plainClock plainOpportunity)

/-- Before the swap the check passes on the curves of the first generation. -/
theorem preflight_accepts_before_the_swap : ∃ start pool handle, plainStart = .ok start ∧
    (quoted start).entryPreflight.check plainClock plainOpportunity = .ok none ∧
    (quoted start).entryPreflight.dexPools ("pair", 0) = some pool ∧
    (quoted start).world.engine.preparedPools[0]? = some (some handle) ∧
    pool.generation = 1 ∧ handle.generation = 1 ∧
    pool.exactInputByDirection = handle.quotes.exactInputByDirection := by
  have observed : plainStart.toOption.map (fun start =>
      ((quoted start).observed, (quoted start).publishing,
        (quoted start).world.engine.preparedPools.map Option.isSome)) =
      some ((.ok 1, some 1, .ok none), none, [true]) := by
    decide +kernel
  cases started : plainStart with
  | error e =>
    rw [started] at observed
    cases observed
  | ok start =>
    rw [started] at observed
    obtain ⟨seen, rest⟩ := Prod.mk.inj (Option.some.inj observed)
    obtain ⟨idle, published⟩ := Prod.mk.inj rest
    obtain ⟨known, checks⟩ := Prod.mk.inj seen
    obtain ⟨_, accepted⟩ := Prod.mk.inj checks
    simp only [plainStart, bind_eq_ok] at started
    obtain ⟨dex, _, created⟩ := started
    have settled : (quoted start).Settled plainOpportunity.dexPoolIndex := by
      refine ⟨?_, by rw [idle]; rintro ⟨⟩⟩
      obtain ⟨slot, first, isSome⟩ := List.map_eq_cons_iff.mp published
      obtain ⟨handle, isHandle⟩ := Option.isSome_iff_exists.mp isSome.2.1
      exact ⟨handle, by rw [isSome.1, isHandle]; rfl⟩
    obtain ⟨pool, handle, facts⟩ := preflight_accepts_current_curves_of_published_pool created
      (Runtime.Reaches.refl.call (.feed (.quote ⟨plainTop, 1, 1, 0⟩))) settled known accepted
    exact ⟨start, pool, handle, rfl, accepted, facts⟩

/-- Between the swap and the publication of the rebuilt curves the same opportunity still passes, on
the curves of the superseded generation; on the rebuilt curves it is rejected. -/
theorem preflight_accepts_stale_curves_during_rebuild : ∃ start, plainStart = .ok start ∧
    Runtime.Reaches Dex.uniswapV3Math start (awaitingRebuild start) ∧
    (quoted start).world.engine.evaluateExactCandidate 0 plainTop .buyTokenBOnDexSellOnCex 0 400 =
      .ok (some plainTrade) ∧
    (awaitingRebuild start).observed = (.ok 2, some 1, .ok none) ∧
    (rebuilt start).observed = (.ok 2, some 2, .ok (some ⟨"preflight_dex_minimum_not_met",
      "current DEX output 391 is below immutable transaction minimum 399"⟩)) := by
  have evaluates : plainStart.toOption.map (fun start =>
      (quoted start).world.engine.evaluateExactCandidate 0 plainTop .buyTokenBOnDexSellOnCex 0 400) =
      some (.ok (some plainTrade)) := by
    decide +kernel
  have stale : plainStart.toOption.map (fun start => (awaitingRebuild start).observed) =
      some (.ok 2, some 1, .ok none) := by
    decide +kernel
  have fresh : plainStart.toOption.map (fun start => (rebuilt start).observed) =
      some (.ok 2, some 2, .ok (some ⟨"preflight_dex_minimum_not_met",
        "current DEX output 391 is below immutable transaction minimum 399"⟩)) := by
    decide +kernel
  cases started : plainStart with
  | error e =>
    rw [started] at evaluates
    cases evaluates
  | ok start =>
    rw [started] at evaluates stale fresh
    exact ⟨start, rfl, (Runtime.Reaches.refl.call _).call _, Option.some.inj evaluates,
      Option.some.inj stale, Option.some.inj fresh⟩

end PolyBot.Opportunity
