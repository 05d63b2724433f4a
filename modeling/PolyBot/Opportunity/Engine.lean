import PolyBot.Lib.RingCache
import PolyBot.Opportunity.Prepared

/-!
# The opportunity engine

The engine keeps the published curves of every pool, a generation for each pool that tells a current
build from a superseded one, and a small cache of baseline quotes.  A refresh takes the curves of a
pool down and hands out a request; its result is published when no later refresh has come between.

* `OpportunityEngine.new`: the engine, with curves of every pool of an enabled pair.
* `OpportunityEngine.evaluate`: both directions of a pair at a quote of the CEX, through the cache.
* `OpportunityEngine.requestPoolRefresh`, `OpportunityEngine.finishPoolRefresh`: the refresh.

An index that the original takes without a check is an error here; it is valid in every engine that
`new` makes.
-/

namespace PolyBot.Opportunity

open Proc

open PolyBot.Dex (ClmmError)
open PolyBot.Trade (ArbitrageDirection addressFromStr)

/-! ## Pairs -/

structure TokenConfig where
  contract : String
  decimals : Nat
  deriving DecidableEq

/-- A configured pool of a provider whose pools can be kept out of the selection.  Only Pancake's
have a fee tier. -/
structure SelectablePool where
  feeTier : Option Nat
  expectedAddress : String
  selectionEnabled : Bool
  deriving DecidableEq

structure V4PoolConfig where
  feeTier : Nat
  tickSpacing : Int
  hooks : String
  deriving DecidableEq

structure DexConfig where
  pancakeswapV3 : Option (List SelectablePool)
  camelotV3 : Option (List SelectablePool)
  lynexAlgebraV19 : Option (List SelectablePool)
  uniswapV4 : Option (List V4PoolConfig)
  deriving DecidableEq

structure ChainConfig where
  uniswapV3RouterAddress : Option String
  pancakeswapV3RouterAddress : Option String
  camelotV3RouterAddress : Option String
  lynexAlgebraV19RouterAddress : Option String
  uniswapV4RouterAddress : Option String
  deriving DecidableEq

/-- The configuration of a pair.  Amounts and steps are what their texts parse to, if anything;
`maxTradeNotional` is there when the pair has adaptive sizing limits. -/
structure PairConfig where
  id : String
  marketDataEnabled : Bool
  chain : ChainConfig
  tokenA : TokenConfig
  tokenB : TokenConfig
  symbol : String
  stepSize : Option Decimal
  tokenABaseUnits : Option Nat
  maxTradeNotional : Option (Option Nat)
  opportunityThresholdBps : Nat
  minSlippageBps : Nat
  maxSlippageBps : Nat
  slippageProfitShareBps : Nat
  dex : DexConfig
  deriving DecidableEq

/-- The switch of a pool's configuration, looked up by its address and, where it has one, its tier. -/
def configuredSelection (pools : Option (List SelectablePool)) (feeTier : Option Nat)
    (address : Address) (absent : String) : Except String Bool := do
  let configured ← orError
    (pools.bind fun pools => pools.find? fun candidate =>
      candidate.feeTier = feeTier ∧ addressFromStr candidate.expectedAddress = some address) absent
  return configured.selectionEnabled

/-- Whether quotes of a pool may be selected; a pool that may not only shadows the others. -/
def selectionEnabled (dex : DexConfig) (listed : ListedPool) : Except String Bool :=
  match listed.hydrated.identity with
  | .pancakeV3 address => configuredSelection dex.pancakeswapV3 (some listed.feePips) address
    "hydrated Pancake pool is absent from pair config"
  | .camelotV3 address => configuredSelection dex.camelotV3 none address
    "hydrated Camelot pool is absent from pair config"
  | .lynexAlgebraV19 address => configuredSelection dex.lynexAlgebraV19 none address
    "hydrated Lynex pool is absent from pair config"
  | _ => .ok true

/-- The indices of a pair's pools, and of those that may be selected. -/
structure PoolIndices where
  all : List Nat
  selection : List Nat

/-- Adds a pool of the mirror to the pair it belongs to. -/
def PoolIndices.add (config : PairConfig) (tokenA tokenB : Address) (indices : PoolIndices) :
    ListedPool × Nat → Except String PoolIndices
  | (listed, index) =>
    if listed.pairId ≠ config.id then .ok indices
    else do
      require (listed.token0 = tokenA ∧ listed.token1 = tokenB ∨
          listed.token0 = tokenB ∧ listed.token1 = tokenA)
        s!"DEX pool tokens differ from pair {config.id}"
      let enabled ← selectionEnabled config.dex listed
      return ⟨indices.all ++ [index],
        if enabled then indices.selection ++ [index] else indices.selection⟩

/-- The greatest input a pair's curves are built for: its trade cap, or twice the baseline. -/
def configuredTokenALimit (config : PairConfig) (baselineTokenA : Nat) : Except String Nat :=
  match config.maxTradeNotional with
  | some maximum => orError maximum "validated adaptive trade cap is invalid"
  | none => .ok (saturateNat 256 (baselineTokenA * 2))

def PairRuntime.new (config : PairConfig) (dex : List ListedPool) : Except String PairRuntime := do
  let tokenA ← orError (addressFromStr config.tokenA.contract) "validated token_a address is invalid"
  let tokenB ← orError (addressFromStr config.tokenB.contract) "validated token_b address is invalid"
  let baselineTokenA ← orError config.tokenABaseUnits "validated token-A baseline is invalid"
  let tokenALimit ← configuredTokenALimit config baselineTokenA
  let stepSize ← orError config.stepSize "validated Binance step_size is invalid"
  let tokenBStep ← decimalToBaseUnits stepSize config.tokenB.decimals
  require (tokenBStep ≠ 0) "Binance step_size rounds to zero"
  let indices ← dex.zipIdx.foldlM (PoolIndices.add config tokenA tokenB) ⟨[], []⟩
  require (indices.all ≠ []) s!"pair {config.id} has no hydrated DEX pools"
  return {
    symbol := config.symbol
    tokenADecimals := config.tokenA.decimals
    tokenBDecimals := config.tokenB.decimals
    opportunityThresholdBps := config.opportunityThresholdBps
    minSlippageBps := config.minSlippageBps
    maxSlippageBps := config.maxSlippageBps
    slippageProfitShareBps := config.slippageProfitShareBps
    baselineTokenA := baselineTokenA
    preparedTokenALimit := tokenALimit
    tokenBStep := tokenBStep
    tokenA := tokenA
    tokenB := tokenB
    poolIndices := indices.all
    selectionPoolIndices := indices.selection }

/-! ## The engine -/

inductive DexQuoteOutcome
  | available (amount : Nat)
  | insufficientLiquidity
  deriving DecidableEq

def baselineCacheEntriesPerDirection : Nat := 8

instance : NeZero baselineCacheEntriesPerDirection := ⟨by decide⟩

abbrev DirectionBaselineQuoteCache :=
  RingCache Nat DexQuoteOutcome baselineCacheEntriesPerDirection

/-- The cached baseline quotes of a pool, for each direction. -/
structure PoolBaselineQuoteCache where
  dexBuy : DirectionBaselineQuoteCache
  dexSell : DirectionBaselineQuoteCache

namespace PoolBaselineQuoteCache

def default : PoolBaselineQuoteCache :=
  ⟨.empty, .empty⟩

def byDirection (cache : PoolBaselineQuoteCache) : ArbitrageDirection → DirectionBaselineQuoteCache
  | .buyTokenBOnDexSellOnCex => cache.dexBuy
  | .buyTokenBOnCexSellOnDex => cache.dexSell

def withDirection (cache : PoolBaselineQuoteCache) (changed : DirectionBaselineQuoteCache) :
    ArbitrageDirection → PoolBaselineQuoteCache
  | .buyTokenBOnDexSellOnCex => { cache with dexBuy := changed }
  | .buyTokenBOnCexSellOnDex => { cache with dexSell := changed }

end PoolBaselineQuoteCache

/-- The published curves, by pool. -/
abbrev PreparedPools := List (Option PreparedCurveGenerationHandle)

structure OpportunityEngine where
  pairs : List PairRuntime
  pairIndicesBySymbol : String → Option Nat
  pairIndexByPool : List (Option Nat)
  poolGenerations : List Nat
  preparedPools : PreparedPools
  baselineQuoteCache : List PoolBaselineQuoteCache

/-- The pairs of a snapshot, with the index of each symbol. -/
structure PairTable where
  pairs : List PairRuntime
  bySymbol : String → Option Nat

def PairTable.add (dex : List ListedPool) (table : PairTable) (config : PairConfig) :
    Except String PairTable := do
  let runtime ← PairRuntime.new config dex
  require (table.bySymbol runtime.symbol = none) s!"duplicate opportunity symbol {config.symbol}"
  return ⟨table.pairs ++ [runtime],
    Function.update table.bySymbol runtime.symbol (some table.pairs.length)⟩

/-- The pair and the curves of every pool, while an engine is made. -/
structure PoolTable where
  pairIndexByPool : List (Option Nat)
  preparedPools : PreparedPools

variable (engine : OpportunityEngine) (cached : Bool) (pair : PairRuntime)
  (preparedPools : PreparedPools)

def preparePoolQuotes (dex : List ListedPool) (poolIndex : Nat) :
    Except String PreparedPoolQuotes := do
  let listed ← orError dex[poolIndex]? "DEX pool index is invalid"
  (PoolSnapshot.of pair listed).quotes.mapError PrepareError.message

def PoolTable.add (dex : List ListedPool) (table : PoolTable) :
    (PairRuntime × Nat) × Nat → Except String PoolTable
  | ((pair, pairIndex), poolIndex) => do
    require (table.pairIndexByPool[poolIndex]? = some none)
      "DEX pool belongs to more than one enabled pair"
    let quotes ← preparePoolQuotes pair dex poolIndex
    return ⟨table.pairIndexByPool.set poolIndex (some pairIndex),
      table.preparedPools.set poolIndex (some ⟨poolIndex, 1, quotes⟩)⟩

/-- The pools of the pairs in the order in which their first curves are built. -/
def pairedPools (pairs : List PairRuntime) : List ((PairRuntime × Nat) × Nat) :=
  pairs.zipIdx.flatMap fun pair => pair.1.poolIndices.map fun poolIndex => (pair, poolIndex)

def OpportunityEngine.new (snapshot : List PairConfig) (dex : List ListedPool) :
    Except String OpportunityEngine := do
  let table ← (snapshot.filter (·.marketDataEnabled)).foldlM (PairTable.add dex) ⟨[], fun _ => none⟩
  let pools ← (pairedPools table.pairs).foldlM (PoolTable.add dex)
    ⟨List.replicate dex.length none, List.replicate dex.length none⟩
  return {
    pairs := table.pairs
    pairIndicesBySymbol := table.bySymbol
    pairIndexByPool := pools.pairIndexByPool
    poolGenerations := pools.preparedPools.map fun prepared => if prepared.isSome then 1 else 0
    preparedPools := pools.preparedPools
    baselineQuoteCache := List.replicate dex.length .default }

/-! ## Lookups in the cache -/

structure BaselineCacheUsage where
  hits : Nat
  misses : Nat
  deriving DecidableEq

/-- The caches of all pools, and how the current evaluation has used them. -/
structure BaselineCacheContext where
  pools : List PoolBaselineQuoteCache
  usage : BaselineCacheUsage

def BaselineCacheUsage.count (usage : BaselineCacheUsage) (hit : Bool) : BaselineCacheUsage :=
  if hit then { usage with hits := saturateNat 16 (usage.hits + 1) }
  else { usage with misses := saturateNat 16 (usage.misses + 1) }

/-- Puts back the ring of a pool's cache after a lookup. -/
def PoolBaselineQuoteCache.putBack (cache : PoolBaselineQuoteCache) (direction : ArbitrageDirection)
    (poolIndex : Nat) (fetched : Except String (DexQuoteOutcome × Bool) ×
      DirectionBaselineQuoteCache) : Proc BaselineCacheContext String DexQuoteOutcome := do
  let (outcome, hit) ← lift fetched.1
  modify fun context => ⟨context.pools.set poolIndex (cache.withDirection fetched.2 direction),
    context.usage.count hit⟩
  return outcome

/-- A quote through the cache of its pool. -/
def PoolBaselineQuoteCache.quote (direction : ArbitrageDirection) (poolIndex tokenBAmount : Nat)
    (load : Nat → Except String DexQuoteOutcome) :
    Proc BaselineCacheContext String DexQuoteOutcome := do
  let context ← get
  let cache ← orFail context.pools[poolIndex]? "baseline quote cache index is invalid"
  cache.putBack direction poolIndex ((cache.byDirection direction).fetch tokenBAmount load)

/-! ## Quotes of the published curves -/

section Evaluation

variable (quote : TopOfBook) (direction : ArbitrageDirection) (poolIndex tokenBAmount : Nat)

/-- The published curves of a pool. -/
def publishedQuotes : Except String PreparedPoolQuotes := do
  let prepared ← orError preparedPools[poolIndex]?.join "prepared DEX pool is unavailable"
  return prepared.quotes

/-- A quote, with too little liquidity as an answer of its own. -/
def quoteOutcome : Except ClmmError Nat → Except String DexQuoteOutcome
  | .ok value => .ok (.available value)
  | .error .insufficientLiquidity => .ok .insufficientLiquidity
  | .error error => .error error.message

def quoteDex : Except String DexQuoteOutcome := do
  let quotes ← publishedQuotes preparedPools poolIndex
  quoteOutcome ((quotes.byDirection direction).quote tokenBAmount)

def quoteTokenAExactInputBaseline (tokenAAmount : Nat) :
    Except String (Option Nat) := do
  let quotes ← publishedQuotes preparedPools poolIndex
  match quotes.tokenAExactInput.quote tokenAAmount with
  | .ok value => return some value
  | .error .insufficientLiquidity => return none
  | .error error => .error error.message

/-- The cost and the proceeds of a trade in token A. -/
def venueAmounts (dexTokenAAmount cexTokenAAmount : Nat) : Nat × Nat :=
  match direction with
  | .buyTokenBOnDexSellOnCex => (dexTokenAAmount, cexTokenAAmount)
  | .buyTokenBOnCexSellOnDex => (cexTokenAAmount, dexTokenAAmount)

/-- The exact input of the swap and its least output; a buy is quoted again for its output. -/
def dexAmounts (dexTokenAAmount slippage : Nat) : Except String (Nat × Nat) :=
  match direction with
  | .buyTokenBOnDexSellOnCex => .ok (dexTokenAAmount, tokenBAmount)
  | .buyTokenBOnCexSellOnDex => do
    let minimum ← subtractBpsFloor dexTokenAAmount slippage
    return (tokenBAmount, minimum)

def evaluateTradeWithDexQuote (cexTokenAAmount : Nat) :
    DexQuoteOutcome → Except String (Option TradeEvaluation)
  | .insufficientLiquidity => .ok none
  | .available dexTokenAAmount => do
    let (cost, proceeds) := venueAmounts direction dexTokenAAmount cexTokenAAmount
    let grossProfitBpsX100 ← signedProfitBpsX100 proceeds cost
    let grossProfitBps := min (max grossProfitBpsX100 0 / 100) u16Max
    let slippage ← slippageBps pair grossProfitBps.toNat
    let (amountIn, amountOutMinimum) ← dexAmounts direction tokenBAmount dexTokenAAmount slippage
    let meets ← meetsThreshold proceeds cost pair.opportunityThresholdBps
    return some {
      poolIndex := poolIndex
      tokenBAmount := tokenBAmount
      dexTokenAAmount := dexTokenAAmount
      cexTokenAAmount := cexTokenAAmount
      costTokenA := cost
      proceedsTokenA := proceeds
      dexAmountIn := amountIn
      dexAmountOutMinimum := amountOutMinimum
      executionSlippageBps := slippage
      grossProfitBpsX100 := grossProfitBpsX100
      meetsThreshold := meets }

/-- The least output of a trade: a buy takes it from the exact-input curve at its own input. -/
def executionMinimum (trade : TradeEvaluation) : Except String Nat :=
  match direction with
  | .buyTokenBOnDexSellOnCex => do
    let quotes ← publishedQuotes preparedPools poolIndex
    let expected ← (quotes.tokenAExactInput.quote trade.dexAmountIn).mapError
      fun _ => "Uniswap exact-input DEX-buy exceeds prepared curve"
    subtractBpsFloor expected trade.executionSlippageBps
  | .buyTokenBOnCexSellOnDex => .ok trade.dexAmountOutMinimum

def applyDexExecutionBounds (trade : TradeEvaluation) : Except String TradeEvaluation := do
  let minimum ← executionMinimum preparedPools direction poolIndex trade
  require (trade.dexAmountIn ≠ 0 ∧ minimum ≠ 0) "DEX execution bounds are zero"
  require (trade.dexAmountIn ≤ pair.preparedTokenALimit ∨ direction = .buyTokenBOnCexSellOnDex)
    "DEX-buy input exceeds the prepared execution envelope"
  return { trade with dexAmountOutMinimum := minimum }

/-- A trade at the quote of a pool, with its bounds. -/
def boundedTrade (cexTokenAAmount : Nat) (dexQuote : DexQuoteOutcome) :
    Except String (Option TradeEvaluation) := do
  match ← evaluateTradeWithDexQuote pair direction poolIndex tokenBAmount cexTokenAAmount dexQuote with
  | none => return none
  | some trade => do
    let bounded ← applyDexExecutionBounds pair preparedPools direction poolIndex trade
    return some bounded

def evaluateTrade : Except String (Option TradeEvaluation) := do
  let dexQuote ← quoteDex preparedPools direction poolIndex tokenBAmount
  let cexAmount ← cexTokenAAmount pair quote direction tokenBAmount
  boundedTrade pair preparedPools direction poolIndex tokenBAmount cexAmount dexQuote

/-! ## Evaluations through the cache -/

/-- A baseline quote, with the cache or without it. -/
def baselineQuote : Proc BaselineCacheContext String DexQuoteOutcome :=
  let load := quoteDex preparedPools direction poolIndex
  if cached then PoolBaselineQuoteCache.quote direction poolIndex tokenBAmount load
  else lift (load tokenBAmount)

/-- The size of the baseline on a pool; nothing where the pool cannot fill it. -/
def poolBaselineTokenB (baselineTokenB : Nat) (baselineFromDexTokenA : Bool) (poolIndex : Nat) :
    Except String (Option Nat) :=
  if baselineFromDexTokenA then do
    match ← quoteTokenAExactInputBaseline preparedPools poolIndex pair.baselineTokenA with
    | none => return none
    | some amount => return some (roundDownToStep amount pair.tokenBStep)
  else
    .ok (some baselineTokenB)

/-- The better of two trades. -/
def betterTrade (best : Option TradeEvaluation) (trade : TradeEvaluation) : TradeEvaluation :=
  match best with
  | none => trade
  | some best => if tradeIsBetter trade best then trade else best

/-- The baseline trade on a published pool, taken when it is better than the best one so far. -/
def evaluateBaseline (best : Option TradeEvaluation) :
    Proc BaselineCacheContext String (Option TradeEvaluation) := do
  let cexAmount ← lift (cexTokenAAmount pair quote direction tokenBAmount)
  let dexQuote ← baselineQuote cached preparedPools direction poolIndex tokenBAmount
  let baseline ← lift
    (boundedTrade pair preparedPools direction poolIndex tokenBAmount cexAmount dexQuote)
  match baseline with
  | none => return best
  | some trade => return some (betterTrade best trade)

/-- One pool of the selection; one that is not published, or that cannot fill the baseline, is
passed over. -/
def evaluatePool (baselineTokenB : Nat) (direction : ArbitrageDirection)
    (baselineFromDexTokenA : Bool) (best : Option TradeEvaluation) (poolIndex : Nat) :
    Proc BaselineCacheContext String (Option TradeEvaluation) :=
  if preparedPools[poolIndex]?.join.isNone then return best
  else do
    let amount ← lift
      (poolBaselineTokenB pair preparedPools baselineTokenB baselineFromDexTokenA poolIndex)
    match amount with
    | none | some 0 => return best
    | some amount => evaluateBaseline cached pair preparedPools quote direction poolIndex amount best

structure DirectionEvaluation where
  direction : ArbitrageDirection
  cexTopTokenBAmount : Nat
  baseline : Option TradeEvaluation
  deriving DecidableEq

def cexTop (quote : TopOfBook) : ArbitrageDirection → Decimal
  | .buyTokenBOnDexSellOnCex => quote.bidQuantity
  | .buyTokenBOnCexSellOnDex => quote.askQuantity

def evaluateDirectionImpl (baselineTokenB : Nat) (direction : ArbitrageDirection)
    (baselineFromDexTokenA : Bool) : Proc BaselineCacheContext String DirectionEvaluation := do
  let top ← lift (decimalToBaseUnits (cexTop quote direction) pair.tokenBDecimals)
  let best ← pair.selectionPoolIndices.foldlM
    (evaluatePool cached pair preparedPools quote baselineTokenB direction baselineFromDexTokenA) none
  return ⟨direction, roundDownToStep top pair.tokenBStep, best⟩

structure PairEvaluation where
  pairIndex : Nat
  baselineTokenBAmount : Nat
  dexBuyCexSell : DirectionEvaluation
  cexBuyDexSell : DirectionEvaluation
  baselineCacheHits : Nat
  baselineCacheMisses : Nat
  deriving DecidableEq

def baselineTokenBAmount : Except String Nat := do
  let raw ← tokenAToTokenBFloor pair.baselineTokenA quote.askPrice pair.tokenADecimals
    pair.tokenBDecimals
  let amount := roundDownToStep raw pair.tokenBStep
  require (amount ≠ 0) "baseline token-B amount rounds to zero"
  return amount

/-- Both directions of a pair. -/
def evaluateDirections :
    Proc BaselineCacheContext String (Nat × DirectionEvaluation × DirectionEvaluation) := do
  let baseline ← lift (baselineTokenBAmount pair quote)
  let buy ← evaluateDirectionImpl cached pair preparedPools quote baseline
    .buyTokenBOnDexSellOnCex true
  let sell ← evaluateDirectionImpl cached pair preparedPools quote baseline
    .buyTokenBOnCexSellOnDex false
  return (baseline, buy, sell)

def evaluatePair (cached : Bool) (pair : PairRuntime) (pairIndex : Nat)
    (preparedPools : PreparedPools) (quote : TopOfBook) :
    Proc BaselineCacheContext String PairEvaluation := do
  let (baseline, buy, sell) ← evaluateDirections cached pair preparedPools quote
  let context ← get
  return ⟨pairIndex, baseline, buy, sell, context.usage.hits, context.usage.misses⟩

end Evaluation

namespace OpportunityEngine

/-- The evaluation of a quote, with the cache or without it. -/
def evaluateWith (cached : Bool) (quote : TopOfBook) :
    Proc OpportunityEngine String (Option PairEvaluation) := do
  let engine ← get
  match engine.pairIndicesBySymbol quote.symbol with
  | none => return none
  | some pairIndex => do
    let pair ← orFail engine.pairs[pairIndex]? "opportunity pair index is invalid"
    let evaluation ← zoom (fun engine => ⟨engine.baselineQuoteCache, ⟨0, 0⟩⟩)
      (fun context engine => { engine with baselineQuoteCache := context.pools })
      (evaluatePair cached pair pairIndex engine.preparedPools quote)
    return some evaluation

def evaluate (quote : TopOfBook) : Proc OpportunityEngine String (Option PairEvaluation) :=
  evaluateWith true quote

def evaluateExactCandidate (pairIndex : Nat) (quote : TopOfBook) (direction : ArbitrageDirection)
    (poolIndex tokenBAmount : Nat) :
    Except String (Option TradeEvaluation) := do
  let pair ← orError engine.pairs[pairIndex]? "opportunity pair index is invalid"
  require (poolIndex ∈ pair.poolIndices) "adaptive candidate pool does not belong to pair"
  require (tokenBAmount % pair.tokenBStep = 0) "adaptive candidate is not Binance-step aligned"
  evaluateTrade pair engine.preparedPools quote direction poolIndex tokenBAmount

/-! ## Refreshes -/

def invalidatePool (poolIndex : Nat) : Proc OpportunityEngine String Unit := do
  let engine ← get
  let _ ← orFail engine.baselineQuoteCache[poolIndex]? "opportunity pool cache index is invalid"
  set { engine with baselineQuoteCache := engine.baselineQuoteCache.set poolIndex .default }

/-- Takes the curves of a pool down and starts its next generation. -/
def takeDown (poolIndex generation : Nat) : OpportunityEngine :=
  { engine with
    preparedPools := engine.preparedPools.set poolIndex none
    poolGenerations := engine.poolGenerations.set poolIndex generation }

/-- `usize::MAX`, the estimate for a pool that has no curves to go by. -/
def unknownSegments : Nat := u64Max

def requestPoolRefresh (poolIndex : Nat) (dex : List ListedPool) :
    Proc OpportunityEngine String PreparedPoolBuildRequest := do
  let engine ← get
  let pairIndex ← orFail engine.pairIndexByPool[poolIndex]?.join
    "opportunity pool has no enabled pair"
  let current ← orFail engine.poolGenerations[poolIndex]?
    "opportunity pool generation index is invalid"
  let previousPrepared ← orFail engine.preparedPools[poolIndex]?
    "prepared pool estimate index is invalid"
  let generation := saturateNat 64 (current + 1)
  set (engine.takeDown poolIndex generation)
  invalidatePool poolIndex
  let pair ← orFail engine.pairs[pairIndex]? "opportunity pair index is invalid"
  let listed ← orFail dex[poolIndex]? "DEX pool index is invalid"
  return {
    toPoolSnapshot := PoolSnapshot.of pair listed
    poolIndex := poolIndex
    generation := generation
    estimatedBuildSegments := (previousPrepared.map (·.quotes.totalSegments)).getD unknownSegments
    previousPrepared := previousPrepared }

structure PreparedPoolRefresh where
  poolIndex : Nat
  generation : Nat
  exactOutputSegments : Nat
  exactInputSegments : Nat
  tokenAExactInputSegments : Nat
  tokenALimit : Nat
  exactOutputTokenBLimit : Nat
  exactInputTokenBLimit : Nat
  feeGeneration : Nat
  feeZeroForOnePips : Nat
  feeOneForZeroPips : Nat
  deriving DecidableEq

/-- The fee generation of published curves; a static fee has none. -/
def feeGeneration (dynamicFee : Bool) (generation : Nat) : Nat :=
  if dynamicFee then generation else 0

/-- What is reported of the curves that go up. -/
def refreshOf (poolIndex generation : Nat) (prepared : PreparedPoolQuotes) : PreparedPoolRefresh where
  poolIndex := poolIndex
  generation := generation
  exactOutputSegments := prepared.exactOutput.segments.length
  exactInputSegments := prepared.exactInput.segments.length
  tokenAExactInputSegments := prepared.tokenAExactInput.segments.length
  tokenALimit := prepared.tokenALimit
  exactOutputTokenBLimit := prepared.exactOutputTokenBLimit
  exactInputTokenBLimit := prepared.exactInputTokenBLimit
  feeGeneration := feeGeneration prepared.dynamicFee generation
  feeZeroForOnePips := prepared.feeZeroForOnePips
  feeOneForZeroPips := prepared.feeOneForZeroPips

/-- Puts the curves of a pool up. -/
def putUp (poolIndex generation : Nat) (quotes : PreparedPoolQuotes) : OpportunityEngine :=
  { engine with
    preparedPools := engine.preparedPools.set poolIndex (some ⟨poolIndex, generation, quotes⟩) }

/-- Publishes a result unless a later refresh has started; a pool that is unavailable stays down. -/
def finishPoolRefresh (result : PreparedPoolBuildResult) :
    Proc OpportunityEngine String (Option PreparedPoolRefresh) := do
  let engine ← get
  let expected ← orFail engine.poolGenerations[result.poolIndex]?
    "prepared pool result index is invalid"
  if result.generation ≠ expected then return none
  else match result.outcome with
    | .unavailable _ => do
      let pairIndex ← orFail engine.pairIndexByPool[result.poolIndex]?.join
        "unavailable prepared pool has no enabled pair"
      let _ ← orFail engine.pairs[pairIndex]? "unavailable prepared pool pair index is invalid"
      return none
    | .prepared quotes => do
      set (engine.putUp result.poolIndex result.generation quotes)
      return some (refreshOf result.poolIndex result.generation quotes)

def poolGeneration (poolIndex : Nat) : Except String Nat :=
  orError engine.poolGenerations[poolIndex]? "opportunity pool generation index is invalid"

def poolFeeGeneration (poolIndex : Nat) : Except String Nat := do
  let slot ← orError engine.preparedPools[poolIndex]? "fee-generation pool index is invalid"
  let prepared ← orError slot "prepared DEX pool is unavailable for fee generation"
  return feeGeneration prepared.quotes.dynamicFee prepared.generation

end OpportunityEngine

end PolyBot.Opportunity
