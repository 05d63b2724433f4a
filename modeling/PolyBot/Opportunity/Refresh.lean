import PolyBot.Opportunity.Engine

/-!
# Refreshes in any order

Requests are handed out, queued, built and finished in any order, with evaluations and changes of the
mirror in between.  `World` is the engine with everything that is under way; a call that fails leaves
what it has changed.

* `Current`: the published curves are those of the latest request, and every cached quote is one of
  the published curves.
* `Current.step`, `Current.reaches`: every call keeps it, and so does every run.
* `curves_and_cached_quotes_are_current`: hence an evaluation is the same without the cache.
-/

namespace PolyBot.Opportunity

open OpportunityEngine Proc PairEvaluation PreparedPoolBuildBatch PoolBaselineQuoteCache List

open PolyBot.Trade (ArbitrageDirection)

/-! ## Runs -/

variable (pair : PairRuntime) (engine : OpportunityEngine)

namespace OpportunityEngine

/-- No generation is at the end of its range, where the next one would not be new. -/
def GenerationsBelow : Prop :=
  ∀ generation ∈ engine.poolGenerations, generation < u64Max

/-- What the engine sees of a pool in a mirror. -/
def snapshotOf (dex : List ListedPool) (poolIndex : Nat) :
    Option PoolSnapshot := do
  let pairIndex ← engine.pairIndexByPool[poolIndex]?.join
  let pair ← engine.pairs[pairIndex]?
  let listed ← dex[poolIndex]?
  return .of pair listed

end OpportunityEngine

/-- An engine with the requests and results that are under way.  `latest` has the snapshot of the
latest request for each pool; a pool starts with the one its first curves were built from. -/
structure World where
  engine : OpportunityEngine
  requests : List PreparedPoolBuildRequest
  batch : PreparedPoolBuildBatch
  results : List PreparedPoolBuildResult
  latest : Nat → Option PoolSnapshot

inductive Call
  | evaluate (quote : TopOfBook)
  | evaluateExactCandidate (pairIndex : Nat) (quote : TopOfBook) (direction : ArbitrageDirection)
      (poolIndex tokenBAmount : Nat)
  | requestPoolRefresh (poolIndex : Nat) (dex : List ListedPool)
  | queue (index : Nat)
  | popNext
  | build (index : Nat)
  | finishPoolRefresh (index : Nat)

namespace World

def start (dex : List ListedPool) : World where
  engine := engine
  requests := []
  batch := []
  results := []
  latest := engine.snapshotOf dex

def request (world : World) (poolIndex : Nat) (dex : List ListedPool) : World :=
  match (requestPoolRefresh poolIndex dex).exec world.engine with
  | (.ok request, engine) => { world with
      engine := engine
      requests := world.requests ++ [request]
      latest := Function.update world.latest poolIndex (world.engine.snapshotOf dex poolIndex) }
  | (.error _, engine) => { world with engine := engine }

/-- Moves a request into the batch. -/
def queue (world : World) (index : Nat) : World :=
  match world.requests[index]? with
  | some request => { world with
      requests := world.requests.eraseIdx index
      batch := PreparedPoolBuildBatch.queue request world.batch }
  | none => world

/-- Takes the next request out of the batch. -/
def popNext (world : World) : World :=
  match world.batch.popNext with
  | (some request, batch) => { world with requests := world.requests ++ [request], batch := batch }
  | (none, batch) => { world with batch := batch }

/-- Builds a request; a build that fails has no result. -/
def build (world : World) (index : Nat) : World :=
  match world.requests[index]? with
  | some request => match request.build with
    | .ok result => { world with
        requests := world.requests.eraseIdx index
        results := world.results ++ [result] }
    | .error _ => { world with requests := world.requests.eraseIdx index }
  | none => world

def finish (world : World) (index : Nat) : World :=
  match world.results[index]? with
  | some result => { world with
      engine := (finishPoolRefresh result).final world.engine
      results := world.results.eraseIdx index }
  | none => world

def step (world : World) : Call → World
  | .evaluate quote =>
    { world with engine := (evaluate quote).final world.engine }
  | .evaluateExactCandidate _ _ _ _ _ => world
  | .requestPoolRefresh poolIndex dex => world.request poolIndex dex
  | .queue index => world.queue index
  | .popNext => world.popNext
  | .build index => world.build index
  | .finishPoolRefresh index => world.finish index

end World

/-- The worlds that calls lead to while no generation is at the end of its range. -/
inductive Reaches (start : World) : World → Prop
  | refl : Reaches start start
  | call {world : World} (reached : Reaches start world) (below : world.engine.GenerationsBelow)
      (call : Call) : Reaches start (world.step call)

/-! ## Evaluations keep the cache right -/

/-- Every pool with curves has a cache, and every cached quote is one of the published curves. -/
structure CacheAgrees (preparedPools : PreparedPools) (caches : List PoolBaselineQuoteCache) :
    Prop where
  covers : preparedPools.length ≤ caches.length
  agrees : ∀ (poolIndex : Nat) (cache : PoolBaselineQuoteCache) (direction : ArbitrageDirection),
    caches[poolIndex]? = some cache →
      (cache.byDirection direction).Agrees (quoteDex preparedPools direction poolIndex)

theorem byDirection_withDirection_self (cache : PoolBaselineQuoteCache)
    (changed : DirectionBaselineQuoteCache) (direction : ArbitrageDirection) :
    (cache.withDirection changed direction).byDirection direction = changed := by
  cases direction <;> rfl

theorem byDirection_withDirection_of_ne (cache : PoolBaselineQuoteCache)
    (changed : DirectionBaselineQuoteCache) {direction other : ArbitrageDirection}
    (ne : other ≠ direction) :
    (cache.withDirection changed direction).byDirection other = cache.byDirection other := by
  cases direction <;> cases other <;> first | rfl | exact absurd rfl ne

theorem byDirection_default (direction : ArbitrageDirection) :
    default.byDirection direction = .empty := by
  cases direction <;> rfl

section Evaluations

variable {preparedPools : PreparedPools} {poolIndex : Nat} {cache : PoolBaselineQuoteCache}
  {direction : ArbitrageDirection}

theorem CacheAgrees.set {caches : List PoolBaselineQuoteCache}
    (agree : CacheAgrees preparedPools caches) (held : caches[poolIndex]? = some cache)
    {changed : DirectionBaselineQuoteCache}
    (agrees : changed.Agrees (quoteDex preparedPools direction poolIndex)) :
    CacheAgrees preparedPools (caches.set poolIndex (cache.withDirection changed direction)) := by
  refine ⟨by rw [length_set]; exact agree.covers, ?_⟩
  intro index other way found
  by_cases here : poolIndex = index
  · subst here
    rw [List.getElem?_set_self (List.getElem?_eq_some_iff.mp held).1] at found
    cases found
    by_cases same : way = direction
    · subst same
      rw [byDirection_withDirection_self]
      exact agrees
    · rw [byDirection_withDirection_of_ne _ _ same]
      exact agree.agrees poolIndex cache way held
  · rw [getElem?_set_ne here] at found
    exact agree.agrees index other way found

/-- A quote through the cache of a pool, as a lookup in its ring. -/
theorem quote_exec {tokenBAmount : Nat} {load : Nat → Except String DexQuoteOutcome}
    {context : BaselineCacheContext} (held : context.pools[poolIndex]? = some cache) :
    (quote direction poolIndex tokenBAmount load).exec context =
      match (cache.byDirection direction).fetch tokenBAmount load with
      | (.ok (outcome, hit), changed) => (.ok outcome,
          ⟨context.pools.set poolIndex (cache.withDirection changed direction),
            context.usage.count hit⟩)
      | (.error e, _) => (.error e, context) := by
  unfold quote
  rw [exec_bind]
  change ((orFail context.pools[poolIndex]? _ >>= _ : Proc _ _ _).exec context) = _
  rw [exec_bind, held]
  change (cache.putBack direction poolIndex _).exec context = _
  rcases (cache.byDirection direction).fetch tokenBAmount load with ⟨_ | ⟨outcome, hit⟩, changed⟩
  · rfl
  · rfl

/-- A quote through the cache is the quote of the published curves. -/
theorem baselineQuote_sameExit (direction : ArbitrageDirection)
    (known : poolIndex < preparedPools.length) (tokenBAmount : Nat) :
    SameExit (fun context => CacheAgrees preparedPools context.pools)
      (baselineQuote true preparedPools direction poolIndex tokenBAmount)
      (baselineQuote false preparedPools direction poolIndex tokenBAmount) := by
  intro context other agree
  obtain ⟨cache, held⟩ : ∃ cache, context.pools[poolIndex]? = some cache :=
    ⟨_, getElem?_eq_getElem (Nat.lt_of_lt_of_le known agree.covers)⟩
  obtain ⟨same, kept⟩ :=
    RingCache.fetch_of_agrees (agree.agrees poolIndex cache direction held) tokenBAmount
  have plain : ((baselineQuote false preparedPools direction poolIndex tokenBAmount).exec other).1 =
      quoteDex preparedPools direction poolIndex tokenBAmount := by
    change ((lift (quoteDex preparedPools direction poolIndex tokenBAmount) :
      Proc _ _ _).exec other).1 = _
    cases quoteDex preparedPools direction poolIndex tokenBAmount <;> rfl
  have through : (baselineQuote true preparedPools direction poolIndex tokenBAmount).exec context = _ :=
    quote_exec held
  rw [plain, through, ← same]
  generalize (cache.byDirection direction).fetch tokenBAmount _ = fetched at kept ⊢
  obtain ⟨_ | ⟨outcome, hit⟩, changed⟩ := fetched
  · exact ⟨rfl, agree⟩
  · exact ⟨rfl, agree.set held kept⟩

theorem evaluateBaseline_sameExit (quote : TopOfBook) (direction : ArbitrageDirection)
    (known : poolIndex < preparedPools.length) (tokenBAmount : Nat) (best : Option TradeEvaluation) :
    SameExit (fun context => CacheAgrees preparedPools context.pools)
      (evaluateBaseline true pair preparedPools quote direction poolIndex tokenBAmount best)
      (evaluateBaseline false pair preparedPools quote direction poolIndex tokenBAmount best) := by
  refine (sameExit_lift _).bind fun cexAmount => ?_
  refine (baselineQuote_sameExit direction known tokenBAmount).bind fun dexQuote => ?_
  refine (sameExit_lift _).bind fun baseline => ?_
  cases baseline with
  | none | some => exact sameExit_pure _

theorem evaluatePool_sameExit (quote : TopOfBook) (baselineTokenB : Nat)
    (direction : ArbitrageDirection) (baselineFromDexTokenA : Bool) (best : Option TradeEvaluation)
    (poolIndex : Nat) :
    SameExit (fun context => CacheAgrees preparedPools context.pools)
      (evaluatePool true pair preparedPools quote baselineTokenB direction baselineFromDexTokenA best
        poolIndex)
      (evaluatePool false pair preparedPools quote baselineTokenB direction baselineFromDexTokenA best
        poolIndex) := by
  unfold evaluatePool
  split
  · exact sameExit_pure _
  · rename_i published
    have known : poolIndex < preparedPools.length := by
      by_contra beyond
      rw [getElem?_eq_none (Nat.le_of_not_lt beyond)] at published
      exact published rfl
    refine (sameExit_lift _).bind fun amount => ?_
    rcases amount with _ | _ | amount
    · exact sameExit_pure _
    · exact sameExit_pure _
    · exact evaluateBaseline_sameExit pair quote direction known _ best

theorem evaluateDirectionImpl_sameExit (quote : TopOfBook) (baselineTokenB : Nat)
    (direction : ArbitrageDirection) (baselineFromDexTokenA : Bool) :
    SameExit (fun context => CacheAgrees preparedPools context.pools)
      (evaluateDirectionImpl true pair preparedPools quote baselineTokenB direction
        baselineFromDexTokenA)
      (evaluateDirectionImpl false pair preparedPools quote baselineTokenB direction
        baselineFromDexTokenA) := by
  refine (sameExit_lift _).bind fun top => ?_
  refine (Proc.SameExit.foldlM (fun best poolIndex => evaluatePool_sameExit pair quote baselineTokenB
    direction baselineFromDexTokenA best poolIndex) _ _).bind fun best => ?_
  exact sameExit_pure _

theorem evaluateDirections_sameExit (quote : TopOfBook) :
    SameExit (fun context => CacheAgrees preparedPools context.pools)
      (evaluateDirections true pair preparedPools quote)
      (evaluateDirections false pair preparedPools quote) := by
  refine (sameExit_lift _).bind fun baseline => ?_
  refine (evaluateDirectionImpl_sameExit pair quote baseline _ true).bind fun buy => ?_
  refine (evaluateDirectionImpl_sameExit pair quote baseline _ false).bind fun sell => ?_
  exact sameExit_pure _

end Evaluations

/-- An evaluation without its counters of hits and misses. -/
def PairEvaluation.withoutCounters (evaluation : PairEvaluation) : PairEvaluation :=
  { evaluation with baselineCacheHits := 0, baselineCacheMisses := 0 }

theorem evaluatePair_exec (cached : Bool) (pair : PairRuntime) (pairIndex : Nat)
    (preparedPools : PreparedPools) (quote : TopOfBook) (context : BaselineCacheContext) :
    (evaluatePair cached pair pairIndex preparedPools quote).exec context =
      match (evaluateDirections cached pair preparedPools quote).exec context with
      | (.ok (baseline, buy, sell), after) =>
        (.ok ⟨pairIndex, baseline, buy, sell, after.usage.hits, after.usage.misses⟩, after)
      | (.error e, after) => (.error e, after) := by
  unfold evaluatePair
  rw [exec_bind]
  rcases (evaluateDirections cached pair preparedPools quote).exec context with
    ⟨_ | ⟨baseline, buy, sell⟩, after⟩
  · rfl
  · rfl

/-- With a right cache a pair is evaluated as without one, and the cache stays right. -/
theorem evaluatePair_cached (pairIndex : Nat) {preparedPools : PreparedPools} (quote : TopOfBook)
    (context other : BaselineCacheContext) (agree : CacheAgrees preparedPools context.pools) :
    ((evaluatePair true pair pairIndex preparedPools quote).exec context).1.map
        withoutCounters =
      ((evaluatePair false pair pairIndex preparedPools quote).exec other).1.map
        withoutCounters ∧
    CacheAgrees preparedPools
      ((evaluatePair true pair pairIndex preparedPools quote).exec context).2.pools := by
  obtain ⟨same, kept⟩ := evaluateDirections_sameExit pair quote context other agree
  rw [evaluatePair_exec, evaluatePair_exec]
  generalize (evaluateDirections true pair preparedPools quote).exec context = left at same kept ⊢
  generalize (evaluateDirections false pair preparedPools quote).exec other = right at same ⊢
  obtain ⟨exit, after⟩ := left
  obtain ⟨_, after'⟩ := right
  cases same
  rcases exit with e | ⟨baseline, buy, sell⟩
  · exact ⟨rfl, kept⟩
  · exact ⟨rfl, kept⟩

namespace OpportunityEngine

theorem evaluateWith_exec (cached : Bool) (quote : TopOfBook) (engine : OpportunityEngine) :
    (evaluateWith cached quote).exec engine =
      match engine.pairIndicesBySymbol quote.symbol with
      | none => (.ok none, engine)
      | some pairIndex => match engine.pairs[pairIndex]? with
        | none => (.error "opportunity pair index is invalid", engine)
        | some pair =>
          let evaluated := (evaluatePair cached pair pairIndex engine.preparedPools quote).exec
            ⟨engine.baselineQuoteCache, ⟨0, 0⟩⟩
          (evaluated.1.map some, { engine with baselineQuoteCache := evaluated.2.pools }) := by
  unfold evaluateWith
  rw [exec_bind]
  change (match engine.pairIndicesBySymbol quote.symbol with
    | none => _
    | some pairIndex => _ : Proc _ _ _).exec engine = _
  cases engine.pairIndicesBySymbol quote.symbol with
  | none => rfl
  | some pairIndex =>
    dsimp only
    rw [exec_bind]
    cases engine.pairs[pairIndex]? with
    | none => rfl
    | some pair =>
      change (zoom _ _ (evaluatePair cached pair pairIndex engine.preparedPools quote) >>= _ :
        Proc _ _ _).exec engine = _
      rw [exec_bind, exec_zoom]
      dsimp only
      rcases (evaluatePair cached pair pairIndex engine.preparedPools quote).exec
        ⟨engine.baselineQuoteCache, ⟨0, 0⟩⟩ with ⟨_ | evaluation, after⟩
      · rfl
      · rfl

theorem map_map_some {ε α β : Type} (r : Except ε α) (f : α → β) :
    (r.map some).map (Option.map f) = (r.map f).map some := by
  cases r <;> rfl

/-- An evaluation with a right cache is the evaluation without one. -/
theorem evaluate_exit {engine : OpportunityEngine} (quote : TopOfBook)
    (agree : CacheAgrees engine.preparedPools engine.baselineQuoteCache) :
    ((evaluate quote).exec engine).1.map (Option.map withoutCounters) =
      ((evaluateWith false quote).exec engine).1.map (Option.map withoutCounters) := by
  rw [evaluate, evaluateWith_exec, evaluateWith_exec]
  cases engine.pairIndicesBySymbol quote.symbol with
  | none => rfl
  | some pairIndex =>
    dsimp only
    cases engine.pairs[pairIndex]? with
    | none => rfl
    | some pair =>
      have same := (evaluatePair_cached pair pairIndex quote ⟨engine.baselineQuoteCache, ⟨0, 0⟩⟩
        ⟨engine.baselineQuoteCache, ⟨0, 0⟩⟩ agree).1
      dsimp only
      rw [map_map_some, map_map_some, same]

/-- An evaluation changes the cache only, and keeps it right. -/
theorem evaluate_final {engine : OpportunityEngine} (quote : TopOfBook)
    (agree : CacheAgrees engine.preparedPools engine.baselineQuoteCache) :
    ∃ caches, CacheAgrees engine.preparedPools caches ∧
      (evaluate quote).final engine = { engine with baselineQuoteCache := caches } := by
  rw [final, evaluate, evaluateWith_exec]
  cases engine.pairIndicesBySymbol quote.symbol with
  | none => exact ⟨engine.baselineQuoteCache, agree, rfl⟩
  | some pairIndex =>
    dsimp only
    cases engine.pairs[pairIndex]? with
    | none => exact ⟨engine.baselineQuoteCache, agree, rfl⟩
    | some pair =>
      exact ⟨_, (evaluatePair_cached pair pairIndex quote ⟨engine.baselineQuoteCache, ⟨0, 0⟩⟩
        ⟨engine.baselineQuoteCache, ⟨0, 0⟩⟩ agree).2, rfl⟩

/-! ## What refreshes change -/

/-- The engine after a pool has been taken down for its next generation. -/
def refreshed (poolIndex generation : Nat) : OpportunityEngine :=
  { engine.takeDown poolIndex generation with
    baselineQuoteCache := engine.baselineQuoteCache.set poolIndex .default }

/-- A request either changes nothing or takes its pool down, and what it hands out is the snapshot
of its pool under the new generation. -/
theorem requestPoolRefresh_wp (poolIndex : Nat) (dex : List ListedPool) :
    wp (requestPoolRefresh poolIndex dex)
      (fun request after => ∃ current, engine.poolGenerations[poolIndex]? = some current ∧
        after = engine.refreshed poolIndex (saturateNat 64 (current + 1)) ∧
        request.poolIndex = poolIndex ∧ request.generation = saturateNat 64 (current + 1) ∧
        engine.snapshotOf dex poolIndex = some request.toPoolSnapshot)
      (fun _ after => after = engine ∨ ∃ current, engine.poolGenerations[poolIndex]? = some current ∧
        after = engine.refreshed poolIndex (saturateNat 64 (current + 1))) engine := by
  simp only [requestPoolRefresh, invalidatePool, wp_bind, wp_get, wp_orFail,
    wp_set, wp_pure]
  refine ⟨?_, fun _ => .inl trivial⟩
  intro pairIndex paired
  refine ⟨?_, fun _ => .inl trivial⟩
  intro current generation
  refine ⟨?_, fun _ => .inl trivial⟩
  intro previous _
  constructor
  · intro cache _
    refine ⟨?_, fun _ => .inr ⟨current, generation, rfl⟩⟩
    intro pair held
    refine ⟨?_, fun _ => .inr ⟨current, generation, rfl⟩⟩
    intro listed found
    refine ⟨current, generation, rfl, trivial, rfl, ?_⟩
    simp only [snapshotOf, paired, held, found, Option.bind_eq_bind, Option.bind_some]
    rfl
  · intro missing
    -- Without a cache for the pool there is none to reset.
    refine .inr ⟨current, generation, ?_⟩
    have beyond : engine.baselineQuoteCache.length ≤ poolIndex := getElem?_eq_none_iff.mp missing
    rw [refreshed, set_eq_of_length_le beyond]
    rfl

/-- A result either changes nothing or is published, and then it is of the current generation. -/
theorem finishPoolRefresh_wp (result : PreparedPoolBuildResult) :
    wp (finishPoolRefresh result)
      (fun refresh after => refresh = none ∧ after = engine ∨
        ∃ quotes, result.outcome = .prepared quotes ∧
          engine.poolGenerations[result.poolIndex]? = some result.generation ∧
          refresh = some (refreshOf result.poolIndex result.generation quotes) ∧
          after = engine.putUp result.poolIndex result.generation quotes)
      (fun _ after => after = engine) engine := by
  simp only [finishPoolRefresh, wp_bind, wp_get, wp_orFail]
  refine ⟨?_, fun _ => trivial⟩
  intro expected known
  rw [wp_ite]
  constructor
  · intro _
    exact .inl ⟨rfl, rfl⟩
  · intro current
    rw [not_not] at current
    cases outcome : result.outcome with
    | unavailable reason =>
      simp only [wp_bind, wp_orFail]
      refine ⟨?_, fun _ => trivial⟩
      intro pairIndex _
      refine ⟨?_, fun _ => trivial⟩
      intro pair _
      exact .inl ⟨rfl, rfl⟩
    | prepared quotes =>
      rw [← current] at known
      exact .inr ⟨quotes, rfl, known, rfl, rfl⟩

end OpportunityEngine

/-! ## The invariant -/

/-- Something built from a request for a pool at a generation: if no later request has come, then
`holds` of the snapshot of the latest one. -/
def OfLatest (world : World) (poolIndex generation : Nat) (holds : PoolSnapshot → Prop) : Prop :=
  ∃ current, world.engine.poolGenerations[poolIndex]? = some current ∧ generation ≤ current ∧
    (generation = current → ∃ snapshot, world.latest poolIndex = some snapshot ∧ holds snapshot)

/-- The curves that are published are those of the latest request, and so are the requests and
results of the current generation. -/
structure Current (world : World) : Prop where
  published : ∀ (poolIndex : Nat) (handle : PreparedCurveGenerationHandle),
    world.engine.preparedPools[poolIndex]? = some (some handle) →
      world.engine.poolGenerations[poolIndex]? = some handle.generation ∧
      ∃ snapshot, world.latest poolIndex = some snapshot ∧ snapshot.quotes = .ok handle.quotes
  requested : ∀ request ∈ world.requests ++ world.batch,
    OfLatest world request.poolIndex request.generation (· = request.toPoolSnapshot)
  built : ∀ result ∈ world.results, OfLatest world result.poolIndex result.generation
    fun snapshot => ∀ quotes, result.outcome = .prepared quotes → snapshot.quotes = .ok quotes
  cached : CacheAgrees world.engine.preparedPools world.engine.baselineQuoteCache

theorem OfLatest.congr {world after : World} {poolIndex generation : Nat}
    {holds : PoolSnapshot → Prop} (ofLatest : OfLatest world poolIndex generation holds)
    (generations : after.engine.poolGenerations = world.engine.poolGenerations)
    (latest : after.latest = world.latest) : OfLatest after poolIndex generation holds := by
  unfold OfLatest
  rw [generations, latest]
  exact ofLatest

/-! ## Quotes of one pool -/

section QuoteDex

variable {preparedPools : PreparedPools} {poolIndex : Nat}

/-- A quote looks at its own pool only. -/
theorem quoteDex_congr {other : PreparedPools}
    (same : preparedPools[poolIndex]? = other[poolIndex]?) (direction : ArbitrageDirection) :
    quoteDex preparedPools direction poolIndex = quoteDex other direction poolIndex := by
  funext tokenBAmount
  unfold quoteDex publishedQuotes
  rw [same]

theorem quoteDex_unpublished (unpublished : preparedPools[poolIndex]?.join = none)
    (direction : ArbitrageDirection) (tokenBAmount : Nat) (outcome : DexQuoteOutcome) :
    quoteDex preparedPools direction poolIndex tokenBAmount ≠ .ok outcome := by
  unfold quoteDex publishedQuotes
  rw [unpublished]
  exact (nomatch ·)

variable {handle : PreparedCurveGenerationHandle} {caches : List PoolBaselineQuoteCache}

theorem quoteDex_published (published : preparedPools[poolIndex]? = some (some handle))
    (direction : ArbitrageDirection) :
    quoteDex preparedPools direction poolIndex =
      fun tokenBAmount => quoteOutcome ((handle.quotes.byDirection direction).quote tokenBAmount) := by
  funext tokenBAmount
  unfold quoteDex publishedQuotes
  rw [published]
  rfl

/-- Taking a pool down and emptying its cache keeps the caches right. -/
theorem CacheAgrees.takeDown (agree : CacheAgrees preparedPools caches) (poolIndex : Nat) :
    CacheAgrees (preparedPools.set poolIndex none) (caches.set poolIndex .default) := by
  refine ⟨by rw [length_set, length_set]; exact agree.covers, ?_⟩
  intro index cache direction held
  by_cases here : poolIndex = index
  · subst here
    have known := (List.getElem?_eq_some_iff.mp held).1
    rw [List.length_set] at known
    rw [getElem?_set_self known] at held
    cases held
    rw [byDirection_default]
    exact RingCache.agrees_empty _
  · rw [getElem?_set_ne here] at held
    rw [quoteDex_congr (getElem?_set_ne here)]
    exact agree.agrees index cache direction held

/-- Putting curves up keeps the caches right, when what was up for the pool had the same curves. -/
theorem CacheAgrees.putUp (agree : CacheAgrees preparedPools caches)
    (same : ∀ old, preparedPools[poolIndex]? = some (some old) → old.quotes = handle.quotes) :
    CacheAgrees (preparedPools.set poolIndex (some handle)) caches := by
  refine ⟨by rw [length_set]; exact agree.covers, ?_⟩
  intro index cache direction held
  by_cases here : poolIndex = index
  · subst here
    have before := agree.agrees poolIndex cache direction held
    rcases up : preparedPools[poolIndex]? with _ | _ | old
    · exact before.of_load_failing (quoteDex_unpublished (by rw [up]; rfl) direction)
    · exact before.of_load_failing (quoteDex_unpublished (by rw [up]; rfl) direction)
    · have now : (preparedPools.set poolIndex (some handle))[poolIndex]? = some (some handle) :=
        List.getElem?_set_self (List.getElem?_eq_some_iff.mp up).1
      rw [quoteDex_published up, same old up] at before
      rw [quoteDex_published now]
      exact before
  · rw [quoteDex_congr (getElem?_set_ne here)]
    exact agree.agrees index cache direction held

end QuoteDex

/-! ## Every call keeps the invariant -/

namespace Current

variable {world : World}

theorem evaluate (current : Current world) (quote : TopOfBook) :
    Current { world with engine := (evaluate quote).final world.engine } := by
  obtain ⟨caches, agree, changed⟩ := evaluate_final quote current.cached
  rw [changed]
  exact ⟨current.published,
    fun request mem => (current.requested request mem).congr rfl rfl,
    fun result mem => (current.built result mem).congr rfl rfl, agree⟩

/-- A refresh supersedes what was under way for its pool and leaves the other pools alone. -/
theorem refreshed_ofLatest {poolIndex generation : Nat} {holds : PoolSnapshot → Prop}
    {index old : Nat} (ofLatest : OfLatest world index old holds) {after : World}
    (below : ∀ now, world.engine.poolGenerations[poolIndex]? = some now → now < generation)
    (generations : after.engine.poolGenerations =
      world.engine.poolGenerations.set poolIndex generation)
    (others : ∀ other, other ≠ poolIndex → after.latest other = world.latest other) :
    OfLatest after index old holds := by
  obtain ⟨now, known, le, latest⟩ := ofLatest
  by_cases here : poolIndex = index
  · subst here
    have superseded := below now known
    refine ⟨generation, ?_, Nat.le_of_lt (Nat.lt_of_le_of_lt le superseded), ?_⟩
    · rw [generations, List.getElem?_set_self (List.getElem?_eq_some_iff.mp known).1]
    · intro same
      omega
  · refine ⟨now, ?_, le, ?_⟩
    · rw [generations, getElem?_set_ne here]
      exact known
    · rw [others index (Ne.symm here)]
      exact latest

section

variable (current : Current world)
include current

/-- The world after a pool was taken down, whether or not a request came of it. -/
theorem refreshed {poolIndex now : Nat}
    (known : world.engine.poolGenerations[poolIndex]? = some now)
    {latest : Nat → Option PoolSnapshot}
    (others : ∀ other, other ≠ poolIndex → latest other = world.latest other) :
    Current { world with engine := world.engine.refreshed poolIndex (now + 1), latest := latest } := by
  have below : ∀ now', world.engine.poolGenerations[poolIndex]? = some now' → now' < now + 1 := by
    intro now' known'
    rw [known] at known'
    cases known'
    exact Nat.lt_succ_self _
  refine ⟨?_, ?_, ?_, current.cached.takeDown poolIndex⟩
  · intro index handle up
    change (world.engine.preparedPools.set poolIndex none)[index]? = _ at up
    by_cases here : poolIndex = index
    · subst here
      rw [getElem?_set] at up
      simp at up
    · rw [getElem?_set_ne here] at up
      obtain ⟨generation, quotes⟩ := current.published index handle up
      refine ⟨?_, ?_⟩
      · change (world.engine.poolGenerations.set poolIndex (now + 1))[index]? = _
        rw [getElem?_set_ne here]
        exact generation
      · change ∃ snapshot, latest index = some snapshot ∧ _
        rw [others index (Ne.symm here)]
        exact quotes
  · intro request mem
    exact refreshed_ofLatest (current.requested request mem) below rfl others
  · intro result mem
    exact refreshed_ofLatest (current.built result mem) below rfl others

theorem request (below : world.engine.GenerationsBelow) (poolIndex : Nat) (dex : List ListedPool) :
    Current (world.request poolIndex dex) := by
  have spec := requestPoolRefresh_wp world.engine poolIndex dex
  have exact : ∀ now, world.engine.poolGenerations[poolIndex]? = some now →
      saturateNat 64 (now + 1) = now + 1 := by
    intro now known
    have small := below now (mem_of_getElem? known)
    unfold u64Max at small
    exact Nat.min_eq_left (by omega)
  unfold World.request
  unfold wp at spec
  generalize (requestPoolRefresh poolIndex dex).exec world.engine = ran at spec
  obtain ⟨failed | request, after⟩ := ran
  · rcases spec with rfl | ⟨now, known, rfl⟩
    · exact current
    · dsimp only
      rw [exact now known]
      exact current.refreshed known fun _ _ => rfl
  · obtain ⟨now, known, rfl, index, generation, snapshot⟩ := spec
    rw [exact now known] at generation
    dsimp only
    rw [exact now known, snapshot]
    have others : ∀ other, other ≠ poolIndex →
        Function.update world.latest poolIndex (some request.toPoolSnapshot) other =
          world.latest other :=
      fun _ ne => Function.update_of_ne ne _ _
    have next := current.refreshed known others
    refine ⟨next.published, ?_, next.built, next.cached⟩
    intro other mem
    rcases mem_append.mp mem with held | queued
    · rcases mem_append.mp held with old | new
      · exact (next.requested other (mem_append_left _ old)).congr rfl rfl
      · cases mem_singleton.mp new
        refine ⟨now + 1, ?_, Nat.le_of_eq generation, ?_⟩
        · rw [index]
          exact List.getElem?_set_self (List.getElem?_eq_some_iff.mp known).1
        · intro _
          rw [index]
          exact ⟨request.toPoolSnapshot, Function.update_self .., rfl⟩
    · exact (next.requested other (mem_append_right _ queued)).congr rfl rfl

/-- What is under way can be moved, reordered or dropped. -/
theorem moved {requests : List PreparedPoolBuildRequest} {batch : PreparedPoolBuildBatch}
    {results : List PreparedPoolBuildResult}
    (requested : ∀ request ∈ requests ++ batch, ∃ held ∈ world.requests ++ world.batch,
      request.poolIndex = held.poolIndex ∧ request.generation = held.generation ∧
      request.toPoolSnapshot = held.toPoolSnapshot)
    (built : ∀ result ∈ results, result ∈ world.results ∨
      ∃ held ∈ world.requests ++ world.batch, held.build = .ok result) :
    Current { world with requests := requests, batch := batch, results := results } := by
  refine ⟨current.published, ?_, ?_, current.cached⟩
  · intro request mem
    obtain ⟨held, old, index, generation, snapshot⟩ := requested request mem
    rw [index, generation, snapshot]
    exact (current.requested held old).congr rfl rfl
  · intro result mem
    rcases built result mem with old | ⟨held, old, made⟩
    · exact (current.built result old).congr rfl rfl
    · obtain ⟨index, generation, quotes⟩ := PreparedPoolBuildRequest.build_spec made
      obtain ⟨now, known, le, latest⟩ := current.requested held old
      rw [index, generation]
      refine ⟨now, known, le, ?_⟩
      intro same
      obtain ⟨snapshot, is, rfl⟩ := latest same
      exact ⟨held.toPoolSnapshot, is, quotes⟩

theorem queue (index : Nat) : Current (world.queue index) := by
  unfold World.queue
  split
  · rename_i request held
    have mine := mem_of_getElem? held
    apply current.moved
    · intro other mem
      rcases mem_append.mp mem with kept | queued
      · exact ⟨other, mem_append_left _ (mem_of_mem_eraseIdx kept), rfl, rfl, rfl⟩
      · rcases mem_queue queued with old | new
        · exact ⟨other, mem_append_right _ old, rfl, rfl, rfl⟩
        · exact ⟨request, mem_append_left _ mine, new⟩
    · exact fun result mem => .inl mem
  · exact current

theorem popNext : Current world.popNext := by
  unfold World.popNext
  split
  · rename_i request batch popped
    have perm := (popNext_perm popped).append_left world.requests
    refine current.moved (fun other mem => ?_) fun result mem => .inl mem
    rw [append_assoc] at mem
    exact ⟨other, perm.mem_iff.mp mem, rfl, rfl, rfl⟩
  · rename_i batch popped
    have perm := (popNext_perm popped).append_left world.requests
    exact current.moved (fun other mem => ⟨other, perm.mem_iff.mp mem, rfl, rfl, rfl⟩)
      fun result mem => .inl mem

theorem build (index : Nat) : Current (world.build index) := by
  have kept : ∀ other ∈ world.requests.eraseIdx index ++ world.batch,
      ∃ held ∈ world.requests ++ world.batch, other.poolIndex = held.poolIndex ∧
        other.generation = held.generation ∧ other.toPoolSnapshot = held.toPoolSnapshot := by
    intro other mem
    rcases mem_append.mp mem with left | queued
    · exact ⟨other, mem_append_left _ (mem_of_mem_eraseIdx left), rfl, rfl, rfl⟩
    · exact ⟨other, mem_append_right _ queued, rfl, rfl, rfl⟩
  unfold World.build
  split
  · rename_i request held
    have mine := mem_append_left world.batch (mem_of_getElem? held)
    split
    · rename_i result made
      apply current.moved kept
      intro other mem
      rcases mem_append.mp mem with old | new
      · exact .inl old
      · cases mem_singleton.mp new
        exact .inr ⟨request, mine, made⟩
    · exact current.moved kept fun result mem => .inl mem
  · exact current

/-- A result that is published has the curves of the latest request. -/
theorem putUp {result : PreparedPoolBuildResult} (mem : result ∈ world.results)
    {quotes : PreparedPoolQuotes} (prepared : result.outcome = .prepared quotes)
    (known : world.engine.poolGenerations[result.poolIndex]? = some result.generation) :
    Current { world with
      engine := world.engine.putUp result.poolIndex result.generation quotes } := by
  obtain ⟨now, known', _, latest⟩ := current.built result mem
  rw [known] at known'
  cases known'
  obtain ⟨snapshot, is, fresh⟩ := latest rfl
  have made := fresh quotes prepared
  refine ⟨?_, fun request held => (current.requested request held).congr rfl rfl,
    fun other held => (current.built other held).congr rfl rfl, current.cached.putUp ?_⟩
  · intro index handle up
    change (world.engine.preparedPools.set result.poolIndex _)[index]? = _ at up
    by_cases here : result.poolIndex = index
    · subst here
      have size := (List.getElem?_eq_some_iff.mp up).1
      rw [List.length_set] at size
      rw [getElem?_set_self size] at up
      cases up
      exact ⟨known, snapshot, is, made⟩
    · rw [getElem?_set_ne here] at up
      exact current.published index handle up
  · intro old up
    obtain ⟨_, snapshot', is', made'⟩ := current.published result.poolIndex old up
    rw [is] at is'
    cases is'
    rw [made] at made'
    cases made'
    rfl

theorem finish (index : Nat) : Current (world.finish index) := by
  unfold World.finish
  split
  · rename_i result held
    have mem := mem_of_getElem? held
    have dropped : ∀ {after : World}, Current after → after.results = world.results →
        Current { after with results := world.results.eraseIdx index } := by
      intro after kept same
      apply kept.moved
      · exact fun request mem => ⟨request, mem, rfl, rfl, rfl⟩
      · intro other mem
        rw [same]
        exact .inl (mem_of_mem_eraseIdx mem)
    apply final_of_wp (P := fun after =>
      Current { world with engine := after, results := world.results.eraseIdx index })
    refine wp_mono (finishPoolRefresh_wp world.engine result) ?_ ?_
    · rintro refresh after (⟨-, rfl⟩ | ⟨quotes, prepared, known, -, rfl⟩)
      · exact dropped current rfl
      · exact dropped (current.putUp mem prepared known) rfl
    · rintro _ _ rfl
      exact dropped current rfl
  · exact current

theorem step (below : world.engine.GenerationsBelow) (call : Call) : Current (world.step call) := by
  cases call with
  | evaluate quote => exact current.evaluate quote
  | evaluateExactCandidate pairIndex quote direction poolIndex tokenBAmount => exact current
  | requestPoolRefresh poolIndex dex => exact current.request below poolIndex dex
  | queue index => exact current.queue index
  | popNext => exact current.popNext
  | build index => exact current.build index
  | finishPoolRefresh index => exact current.finish index

end

theorem reaches {start : World} (current : Current start) (reached : Reaches start world) :
    Current world := by
  induction reached with
  | refl => exact current
  | call _ below call ih => exact ih.step below call

end Current

/-! ## The first curves -/

/-- While an engine is made, a pool has curves exactly when it has a pair, and they are built from
the mirror at the first generation. -/
structure Tabled (pairs : List PairRuntime) (dex : List ListedPool) (table : PoolTable) : Prop where
  sizes : table.preparedPools.length = dex.length ∧ table.pairIndexByPool.length = dex.length
  prepared : ∀ (poolIndex : Nat) (handle : PreparedCurveGenerationHandle),
    table.preparedPools[poolIndex]? = some (some handle) → handle.generation = 1 ∧
      ∃ pairIndex pair listed, table.pairIndexByPool[poolIndex]? = some (some pairIndex) ∧
        pairs[pairIndex]? = some pair ∧ dex[poolIndex]? = some listed ∧
        (PoolSnapshot.of pair listed).quotes = .ok handle.quotes
  paired : ∀ poolIndex pairIndex : Nat, table.pairIndexByPool[poolIndex]? = some (some pairIndex) →
    ∃ handle, table.preparedPools[poolIndex]? = some (some handle)

section Tables

variable {pairs : List PairRuntime} {dex : List ListedPool} {table next : PoolTable}

theorem tabled_empty : Tabled pairs dex
    ⟨replicate dex.length none, replicate dex.length none⟩ := by
  refine ⟨⟨length_replicate, length_replicate⟩, ?_, ?_⟩
  · intro poolIndex handle up
    simp [getElem?_replicate] at up
  · intro poolIndex pairIndex paired
    simp [getElem?_replicate] at paired

variable {pairIndex poolIndex : Nat} {snapshot : List PairConfig}

theorem Tabled.add (tabled : Tabled pairs dex table) {pair : PairRuntime}
    (held : pairs[pairIndex]? = some pair)
    (added : table.add dex ((pair, pairIndex), poolIndex) = .ok next) : Tabled pairs dex next := by
  simp only [PoolTable.add, preparePoolQuotes, bind_eq_ok, require_eq_ok, orError_eq_ok,
    mapError_eq_ok, pure_eq_ok] at added
  obtain ⟨_, free, quotes, ⟨listed, found, built⟩, rfl⟩ := added
  have size : poolIndex < dex.length := (List.getElem?_eq_some_iff.mp found).1
  have up : (table.preparedPools.set poolIndex (some ⟨poolIndex, 1, quotes⟩))[poolIndex]? =
      some (some ⟨poolIndex, 1, quotes⟩) :=
    getElem?_set_self (by rw [tabled.sizes.1]; exact size)
  have here : (table.pairIndexByPool.set poolIndex (some pairIndex))[poolIndex]? =
      some (some pairIndex) :=
    getElem?_set_self (by rw [tabled.sizes.2]; exact size)
  refine ⟨?_, ?_, ?_⟩
  · simp only [length_set]
    exact tabled.sizes
  · intro index handle prepared
    by_cases same : poolIndex = index
    · subst same
      rw [up] at prepared
      cases prepared
      exact ⟨rfl, pairIndex, pair, listed, here, held, found, built⟩
    · rw [getElem?_set_ne same] at prepared ⊢
      exact tabled.prepared index handle prepared
  · intro index other paired
    by_cases same : poolIndex = index
    · subst same
      exact ⟨_, up⟩
    · rw [getElem?_set_ne same] at paired ⊢
      exact tabled.paired index other paired

theorem getElem?_of_mem_pairedPools {pair : PairRuntime}
    (mem : ((pair, pairIndex), poolIndex) ∈ pairedPools pairs) : pairs[pairIndex]? = some pair := by
  obtain ⟨⟨other, index⟩, numbered, listed⟩ := mem_flatMap.mp mem
  obtain ⟨_, _, same⟩ := mem_map.mp listed
  cases same
  exact mk_mem_zipIdx_iff_getElem?.mp numbered

/-- The tables of a new engine. -/
theorem tabled_of_new {engine : OpportunityEngine} (created : new snapshot dex = .ok engine) :
    Tabled engine.pairs dex ⟨engine.pairIndexByPool, engine.preparedPools⟩ := by
  simp only [new, bind_eq_ok, pure_eq_ok] at created
  obtain ⟨table, _, pools, filled, rfl⟩ := created
  refine foldlM_invariant (P := Tabled table.pairs dex) ?_ tabled_empty filled
  intro before entry mem after tabled added
  obtain ⟨⟨pair, pairIndex⟩, poolIndex⟩ := entry
  exact tabled.add (getElem?_of_mem_pairedPools mem) added

theorem current_of_new {engine : OpportunityEngine} (created : new snapshot dex = .ok engine) :
    Current (World.start engine dex) := by
  have tabled := tabled_of_new created
  simp only [new, bind_eq_ok, pure_eq_ok] at created
  obtain ⟨table, _, pools, _, rfl⟩ := created
  refine ⟨?_, forall_mem_nil _, forall_mem_nil _, ?_, ?_⟩
  · intro poolIndex handle up
    obtain ⟨first, pairIndex, pair, listed, paired, held, found, built⟩ :=
      tabled.prepared poolIndex handle up
    refine ⟨?_, PoolSnapshot.of pair listed, ?_, built⟩
    · change pools.preparedPools[poolIndex]? = _ at up
      change (pools.preparedPools.map _)[poolIndex]? = _
      rw [getElem?_map, up, first]
      rfl
    · change pools.pairIndexByPool[poolIndex]? = _ at paired
      simp only [World.start, snapshotOf, paired, held, found,
        Option.bind_eq_bind, Option.join_some, Option.bind_some]
      rfl
  · exact Nat.le_of_eq (tabled.sizes.1.trans length_replicate.symm)
  · intro poolIndex cache direction held
    change (replicate dex.length default)[poolIndex]? = _ at held
    have is := eq_of_mem_replicate (mem_of_getElem? held)
    subst is
    rw [byDirection_default]
    exact RingCache.agrees_empty _

end Tables

/-! ## Main result -/

/-- In every world that calls lead to, the published curves of a pool are those that its latest
request gives without reused buffers, under the pool's generation; every cached baseline quote is
the quote of the published curves; and an evaluation is, apart from its counters, the evaluation
without the cache. -/
theorem curves_and_cached_quotes_are_current {snapshot : List PairConfig} {dex : List ListedPool}
    {engine : OpportunityEngine} (created : new snapshot dex = .ok engine)
    {world : World} (reached : Reaches (World.start engine dex) world) :
    (∀ (poolIndex : Nat) (handle : PreparedCurveGenerationHandle),
      world.engine.preparedPools[poolIndex]? = some (some handle) →
        world.engine.poolGenerations[poolIndex]? = some handle.generation ∧
        ∃ latest, world.latest poolIndex = some latest ∧ latest.quotes = .ok handle.quotes) ∧
    (∀ (poolIndex : Nat) (cache : PoolBaselineQuoteCache) (direction : ArbitrageDirection)
      (tokenBAmount : Nat) (outcome : DexQuoteOutcome),
      world.engine.baselineQuoteCache[poolIndex]? = some cache →
      some (tokenBAmount, outcome) ∈ (cache.byDirection direction).entries →
        quoteDex world.engine.preparedPools direction poolIndex tokenBAmount = .ok outcome) ∧
    ∀ quote : TopOfBook,
      ((evaluate quote).exec world.engine).1.map
          (Option.map withoutCounters) =
        ((evaluateWith false quote).exec world.engine).1.map
          (Option.map withoutCounters) := by
  have current := (current_of_new created).reaches reached
  refine ⟨current.published, ?_, ?_⟩
  · intro poolIndex cache direction tokenBAmount outcome held entry
    exact current.cached.agrees poolIndex cache direction held tokenBAmount outcome entry
  · intro quote
    exact evaluate_exit quote current.cached

/-- A pair of two tokens without decimals. -/
def plainPair : PairConfig where
  id := "pair"
  marketDataEnabled := true
  chain := ⟨none, none, none, none, none⟩
  tokenA := ⟨"0000000000000000000000000000000000000001", 0⟩
  tokenB := ⟨"0000000000000000000000000000000000000002", 0⟩
  symbol := "AB"
  stepSize := some ⟨1, 0, by decide, by decide⟩
  tokenABaseUnits := some 500
  maxTradeNotional := none
  opportunityThresholdBps := 20
  minSlippageBps := 1
  maxSlippageBps := 10
  slippageProfitShareBps := 5000
  dex := ⟨none, none, none, none⟩

/-- Its pool, with liquidity over the whole range. -/
def plainPool : ListedPool where
  pairId := "pair"
  feePips := 3000
  token0 := 1
  token1 := 2
  hydrated := ⟨.v3 3, ⟨3000, 3000, 60, 2 ^ 96 + 10 ^ 26, 25, 10 ^ 18, ∅, ∅, .spacingCompressed,
    .static⟩, none, none⟩

/-- One pool, refreshed once. -/
def refreshedOnce : World :=
  (((World.start engine [plainPool]).step (.requestPoolRefresh 0 [plainPool])).step (.build 0)).step
    (.finishPoolRefresh 0)

/-- The generations before each of the calls, and the one that is published at the end. -/
def refreshedGenerations : List (List Nat) × Option Nat :=
  let requested := (World.start engine [plainPool]).step (.requestPoolRefresh 0 [plainPool])
  ([engine.poolGenerations, requested.engine.poolGenerations,
      (requested.step (.build 0)).engine.poolGenerations],
    (refreshedOnce engine).engine.preparedPools[0]?.join.map (·.generation))

theorem refreshed_pool_is_current : ∃ engine handle latest,
    new [plainPair] [plainPool] = .ok engine ∧
    (refreshedOnce engine).engine.preparedPools[0]? = some (some handle) ∧
    handle.generation = 2 ∧ (refreshedOnce engine).latest 0 = some latest ∧
    latest.quotes = .ok handle.quotes := by
  have evaluated : (new [plainPair] [plainPool]).toOption.map
      refreshedGenerations = some ([[1], [2], [2]], some 2) := by
    decide +kernel
  cases created : new [plainPair] [plainPool] with
  | error e =>
    rw [created] at evaluated
    cases evaluated
  | ok engine =>
    rw [created] at evaluated
    obtain ⟨generations, published⟩ := Prod.mk.inj (Option.some.inj evaluated)
    obtain ⟨first, rest⟩ := cons.inj generations
    obtain ⟨second, rest⟩ := cons.inj rest
    obtain ⟨third, _⟩ := cons.inj rest
    have below : ∀ {world : World} {generation : Nat}, world.engine.poolGenerations = [generation] →
        generation ≤ 2 → world.engine.GenerationsBelow := by
      intro world generation same small other mem
      rw [same] at mem
      cases mem_singleton.mp mem
      exact Nat.lt_of_le_of_lt small (by decide)
    have reached : Reaches (World.start engine [plainPool]) (refreshedOnce engine) :=
      (((Reaches.refl.call (below first (by decide)) _).call (below second le_rfl) _).call
        (below third le_rfl) _)
    obtain ⟨handle, up, generation⟩ := Option.map_eq_some_iff.mp published
    have here := Option.join_eq_some_iff.mp up
    obtain ⟨_, latest, is, built⟩ :=
      (curves_and_cached_quotes_are_current created reached).1 0 handle here
    exact ⟨engine, handle, latest, rfl, here, generation, is, built⟩

end PolyBot.Opportunity
