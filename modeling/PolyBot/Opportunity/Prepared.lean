import PolyBot.Dex.Mirror
import PolyBot.Dex.Quotes
import PolyBot.Opportunity.Economics

/-!
# Prepared curves of a pool

Quotes are not computed on the pool itself but on three curves that are built from a snapshot of it,
off the owner's thread.  A build may reuse the buffers of the curves it replaces.

* `preparePoolQuotesFromPool`: the three curves of a snapshot.
* `PreparedPoolBuildRequest.build`: a build; a pool whose liquidity gives no token B is unavailable
  and not an error.
* `PreparedPoolBuildBatch`: the requests that wait for a build, at most one for each pool.
* `preparePoolQuotesFromPool_previous`: the reused buffers do not show in the result.
-/

namespace PolyBot.Opportunity

open PolyBot.Dex (ClmmError ClmmPool HydratedPool PreparedQuoteCurve)
open PolyBot.Trade (ArbitrageDirection)

/-- What hydration knows of a pool and no event changes; `feePips` is the fee in the identity of a
static-fee pool. -/
structure PoolListing where
  pairId : String
  feePips : Nat
  token0 : Address
  token1 : Address
  deriving DecidableEq

/-- A pool of the mirror. -/
structure ListedPool extends PoolListing where
  hydrated : HydratedPool

/-- What a build reads of a pool and its pair. -/
structure PoolSnapshot where
  pool : ClmmPool
  exactOutputZeroForOne : Bool
  exactInputZeroForOne : Bool
  tokenALimit : Nat
  dynamicFee : Bool

def PoolSnapshot.of (pair : PairRuntime) (listed : ListedPool) : PoolSnapshot where
  pool := listed.hydrated.pool
  exactOutputZeroForOne := listed.token0 = pair.tokenA
  exactInputZeroForOne := listed.token0 = pair.tokenB
  tokenALimit := pair.preparedTokenALimit
  dynamicFee := listed.hydrated.camelotFee.isSome

/-! ## Curves -/

structure PreparedPoolQuotes where
  exactOutput : PreparedQuoteCurve
  exactInput : PreparedQuoteCurve
  tokenAExactInput : PreparedQuoteCurve
  tokenALimit : Nat
  exactOutputTokenBLimit : Nat
  exactInputTokenBLimit : Nat
  dynamicFee : Bool
  feeZeroForOnePips : Nat
  feeOneForZeroPips : Nat
  deriving DecidableEq

inductive PreparedPoolUnavailable
  | dexBuyHasNoTokenBOutput
  | dexSellHasNoTokenBInput
  deriving DecidableEq

/-- Why curves are not built. -/
inductive PrepareError
  | clmm (error : ClmmError)
  | unavailable (reason : PreparedPoolUnavailable)
  deriving DecidableEq

def PreparedPoolUnavailable.message : PreparedPoolUnavailable → String
  | dexBuyHasNoTokenBOutput => "DEX-buy execution envelope has no token-B output"
  | dexSellHasNoTokenBInput => "DEX-sell execution envelope has no token-B input"

def PrepareError.message : PrepareError → String
  | clmm error => error.message
  | unavailable reason => reason.message

namespace PreparedPoolQuotes

/-- The curve that quotes an amount of token B in a direction. -/
def byDirection (quotes : PreparedPoolQuotes) : ArbitrageDirection → PreparedQuoteCurve
  | .buyTokenBOnDexSellOnCex => quotes.exactOutput
  | .buyTokenBOnCexSellOnDex => quotes.exactInput

def totalSegments (quotes : PreparedPoolQuotes) : Nat :=
  saturateNat 64 (saturateNat 64 (quotes.exactOutput.segments.length +
    quotes.exactInput.segments.length) + quotes.tokenAExactInput.segments.length)

end PreparedPoolQuotes

variable (pool : ClmmPool) (zeroForOne : Bool)

/-- An exact-input curve, in the buffer of a previous one if there is one. -/
def exactInputCurve (maximum : Nat) :
    Option PreparedQuoteCurve → Except ClmmError PreparedQuoteCurve
  | some previous => pool.prepareExactInputCurveBoundedReusing zeroForOne maximum previous
  | none => pool.prepareExactInputCurveBounded zeroForOne maximum

/-- An exact-output curve, in the buffer of a previous one if there is one. -/
def exactOutputCurve (maximum : Nat) :
    Option PreparedQuoteCurve → Except ClmmError PreparedQuoteCurve
  | some previous => pool.prepareExactOutputCurveBoundedReusing zeroForOne maximum previous
  | none => pool.prepareExactOutputCurveBounded zeroForOne maximum

def preparePoolQuotesFromPool (snapshot : PoolSnapshot) (previous : Option PreparedPoolQuotes) :
    Except PrepareError PreparedPoolQuotes := do
  let tokenAExactInput ← (exactInputCurve snapshot.pool snapshot.exactOutputZeroForOne
    snapshot.tokenALimit (previous.map (·.tokenAExactInput))).mapError .clmm
  let exactOutputTokenBLimit := tokenAExactInput.resultCapacity
  require (exactOutputTokenBLimit ≠ 0) (.unavailable .dexBuyHasNoTokenBOutput)
  let exactInput ← (snapshot.pool.prepareExactInputCurveBoundedByExactOutputReusing
    snapshot.exactInputZeroForOne snapshot.tokenALimit
    (previous.map (·.exactInput))).mapError .clmm
  let exactInputTokenBLimit := exactInput.specifiedCapacity
  require (exactInputTokenBLimit ≠ 0) (.unavailable .dexSellHasNoTokenBInput)
  let exactOutput ← (exactOutputCurve snapshot.pool snapshot.exactOutputZeroForOne
    exactOutputTokenBLimit (previous.map (·.exactOutput))).mapError .clmm
  return {
    exactOutput := exactOutput
    exactInput := exactInput
    tokenAExactInput := tokenAExactInput
    tokenALimit := snapshot.tokenALimit
    exactOutputTokenBLimit := exactOutputTokenBLimit
    exactInputTokenBLimit := exactInputTokenBLimit
    dynamicFee := snapshot.dynamicFee
    feeZeroForOnePips := snapshot.pool.feePipsForDirection true
    feeOneForZeroPips := snapshot.pool.feePipsForDirection false }

/-- The curves of a snapshot in fresh buffers. -/
def PoolSnapshot.quotes (snapshot : PoolSnapshot) : Except PrepareError PreparedPoolQuotes :=
  preparePoolQuotesFromPool snapshot none

theorem exactInputCurve_previous (maximum : Nat) (previous : Option PreparedQuoteCurve) :
    exactInputCurve pool zeroForOne maximum previous =
      exactInputCurve pool zeroForOne maximum none := by
  cases previous <;> rfl

theorem exactOutputCurve_previous (maximum : Nat) (previous : Option PreparedQuoteCurve) :
    exactOutputCurve pool zeroForOne maximum previous =
      exactOutputCurve pool zeroForOne maximum none := by
  cases previous <;> rfl

theorem fusedCurve_previous (maximum : Nat) (previous : Option PreparedQuoteCurve) :
    pool.prepareExactInputCurveBoundedByExactOutputReusing zeroForOne maximum previous =
      pool.prepareExactInputCurveBoundedByExactOutputReusing zeroForOne maximum none := by
  cases previous <;> rfl

/-- A previous generation gives its allocations only. -/
theorem preparePoolQuotesFromPool_previous (snapshot : PoolSnapshot)
    (previous : Option PreparedPoolQuotes) :
    preparePoolQuotesFromPool snapshot previous = snapshot.quotes := by
  unfold PoolSnapshot.quotes preparePoolQuotesFromPool
  rw [exactInputCurve_previous, fusedCurve_previous]
  simp only [exactOutputCurve_previous _ _ _ (previous.map _)]
  rfl

/-! ## Builds -/

structure PreparedCurveGenerationHandle where
  poolIndex : Nat
  generation : Nat
  quotes : PreparedPoolQuotes
  deriving DecidableEq

structure PreparedPoolBuildRequest extends PoolSnapshot where
  poolIndex : Nat
  generation : Nat
  estimatedBuildSegments : Nat
  previousPrepared : Option PreparedCurveGenerationHandle

inductive PreparedPoolBuildOutcome
  | prepared (quotes : PreparedPoolQuotes)
  | unavailable (reason : PreparedPoolUnavailable)
  deriving DecidableEq

structure PreparedPoolBuildResult where
  poolIndex : Nat
  generation : Nat
  outcome : PreparedPoolBuildOutcome
  deriving DecidableEq

def PreparedPoolBuildRequest.build (request : PreparedPoolBuildRequest) :
    Except String PreparedPoolBuildResult :=
  match preparePoolQuotesFromPool request.toPoolSnapshot
      (request.previousPrepared.map (·.quotes)) with
  | .ok prepared => .ok ⟨request.poolIndex, request.generation, .prepared prepared⟩
  | .error (.unavailable reason) =>
    .ok ⟨request.poolIndex, request.generation, .unavailable reason⟩
  | .error (.clmm error) => .error error.message

/-- What a result says about the request it was built from. -/
theorem PreparedPoolBuildRequest.build_spec {request : PreparedPoolBuildRequest}
    {result : PreparedPoolBuildResult} (built : request.build = .ok result) :
    result.poolIndex = request.poolIndex ∧ result.generation = request.generation ∧
      ∀ quotes, result.outcome = .prepared quotes → request.toPoolSnapshot.quotes = .ok quotes := by
  unfold build at built
  rw [preparePoolQuotesFromPool_previous] at built
  split at built
  · rename_i prepared fresh
    cases built
    refine ⟨rfl, rfl, ?_⟩
    intro quotes same
    cases same
    exact fresh
  · cases built
    exact ⟨rfl, rfl, (nomatch ·, ·)⟩
  · cases built

/-! ## The batch -/

/-- The requests that wait for a build. -/
abbrev PreparedPoolBuildBatch := List PreparedPoolBuildRequest

/-- A request that replaces a queued one takes over its estimate, and its buffers if it has none. -/
def PreparedPoolBuildRequest.replacing (request queued : PreparedPoolBuildRequest) :
    PreparedPoolBuildRequest :=
  { request with
    estimatedBuildSegments := queued.estimatedBuildSegments
    previousPrepared := request.previousPrepared <|> queued.previousPrepared }

namespace PreparedPoolBuildBatch

/-- Keeps only the newest request for each pool. -/
def queue (request : PreparedPoolBuildRequest) : PreparedPoolBuildBatch → PreparedPoolBuildBatch
  | [] => [request]
  | queued :: rest =>
    if queued.poolIndex = request.poolIndex then request.replacing queued :: rest
    else queued :: queue request rest

/-- The order of builds: the shortest estimate first. -/
def buildsBefore (first second : PreparedPoolBuildRequest) : Bool :=
  first.estimatedBuildSegments < second.estimatedBuildSegments ||
    (first.estimatedBuildSegments = second.estimatedBuildSegments &&
      first.poolIndex ≤ second.poolIndex)

def popNext (batch : PreparedPoolBuildBatch) :
    Option PreparedPoolBuildRequest × PreparedPoolBuildBatch :=
  match batch.mergeSort buildsBefore with
  | [] => (none, [])
  | first :: rest => (some first, rest)

/-- What is queued was queued before, or is the new request but for its estimate and buffers. -/
theorem mem_queue {request queued : PreparedPoolBuildRequest} {batch : PreparedPoolBuildBatch}
    (mem : queued ∈ queue request batch) :
    queued ∈ batch ∨ queued.poolIndex = request.poolIndex ∧
      queued.generation = request.generation ∧ queued.toPoolSnapshot = request.toPoolSnapshot := by
  induction batch with
  | nil =>
    cases List.mem_singleton.mp mem
    exact .inr ⟨rfl, rfl, rfl⟩
  | cons first rest ih =>
    unfold queue at mem
    split at mem
    · rcases List.mem_cons.mp mem with replaced | old
      · subst replaced
        exact .inr ⟨rfl, rfl, rfl⟩
      · exact .inl (List.mem_cons_of_mem _ old)
    · rcases List.mem_cons.mp mem with same | later
      · subst same
        exact .inl List.mem_cons_self
      · rcases ih later with old | new
        · exact .inl (List.mem_cons_of_mem _ old)
        · exact .inr new

/-- The next build and the rest are the batch in another order. -/
theorem popNext_perm {batch rest : PreparedPoolBuildBatch} {first : Option PreparedPoolBuildRequest}
    (popped : popNext batch = (first, rest)) : (first.toList ++ rest).Perm batch := by
  have sorted := List.mergeSort_perm batch buildsBefore
  unfold popNext at popped
  split at popped
  · rename_i nothing
    rw [nothing] at sorted
    cases popped
    exact sorted
  · rename_i next others split
    rw [split] at sorted
    cases popped
    exact sorted

end PreparedPoolBuildBatch

end PolyBot.Opportunity
