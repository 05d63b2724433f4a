import PolyBot.Dex.RoundTrip
import PolyBot.Opportunity.Preflight

/-!
# Preflight and evaluation agree

The preflight quotes and prices an opportunity again, with other curves and other code than the
evaluation that found it.  A sale is quoted on the same curve.  A buy was found at its output and is
quoted again at its input, so the round trip over the two curves has to give the output back.

* `worth`: what both price conversions compute.
* `evaluateTrade_spec`: what a trade says about the quotes it was made of.
* `recheck_accepts_evaluated_trade`: the recomputation accepts a trade that meets its threshold, or
  fails at a product that does not fit; for a buy, when its output is quoted without a missed cost.
-/

namespace PolyBot.Opportunity

open PolyBot.Dex (ClmmPool PreparedQuoteCurve)
open PolyBot.Trade (ArbitrageDirection)

/-! ## Prices -/

/-- A quotient, rounded down or up. -/
def quotient (numerator denominator : Nat) (roundUp : Bool) : Nat :=
  numerator / denominator + if roundUp = true ∧ numerator % denominator ≠ 0 then 1 else 0

variable {value : Nat}

theorem roundedQuotient_eq_some {width numerator denominator : Nat} {roundUp : Bool}
    (rounded : roundedQuotient width numerator denominator roundUp = some value) :
    value = quotient numerator denominator roundUp := by
  unfold roundedQuotient at rounded
  unfold quotient
  split at rounded
  · exact (checkedAdd_eq_some.mp rounded).2.trans (by rw [if_pos ‹_›])
  · rw [if_neg ‹_›]
    exact (Option.some.inj rounded).symm

variable {factor first second amount bps : Nat}

theorem quotient_mul_right (numerator denominator : Nat) (positive : 0 < factor) (roundUp : Bool) :
    quotient (numerator * factor) (denominator * factor) roundUp =
      quotient numerator denominator roundUp := by
  unfold quotient
  rw [Nat.mul_div_mul_right _ _ positive, Nat.mul_mod_mul_right]
  simp [positive.ne']

theorem quotient_mul_self (value : Nat) (positive : 0 < factor) (roundUp : Bool) :
    quotient (value * factor) factor roundUp = value := by
  unfold quotient
  rw [Nat.mul_div_cancel _ positive, Nat.mul_mod_left]
  simp

theorem quotient_mono (le : first ≤ second) (denominator : Nat) :
    quotient first denominator false ≤ quotient second denominator false := by
  simpa [quotient] using Nat.div_le_div_right le

/-- The worth of an amount of token B at a price, in base units of token A. -/
def worth (tokenBAmount : Nat) (price : Decimal) (tokenADecimals tokenBDecimals : Nat)
    (roundUp : Bool) : Nat :=
  quotient (tokenBAmount * price.mantissa.toNat * 10 ^ tokenADecimals)
    (10 ^ tokenBDecimals * 10 ^ price.scale) roundUp

theorem worth_mono (le : first ≤ second) (price : Decimal) (tokenADecimals tokenBDecimals : Nat) :
    worth first price tokenADecimals tokenBDecimals false ≤
      worth second price tokenADecimals tokenBDecimals false :=
  quotient_mono (Nat.mul_le_mul_right _ (Nat.mul_le_mul_right _ le)) _

section Worth

variable {tokenBAmount tokenADecimals tokenBDecimals value exponent : Nat} {price : Decimal}
  {roundUp : Bool}

theorem worth_of_scaled_up (scaled : tokenADecimals = tokenBDecimals + price.scale + exponent) :
    worth tokenBAmount price tokenADecimals tokenBDecimals roundUp =
      tokenBAmount * price.mantissa.toNat * 10 ^ exponent := by
  subst scaled
  rw [worth, Nat.pow_add, Nat.pow_add,
    Nat.mul_comm (10 ^ tokenBDecimals * 10 ^ price.scale) (10 ^ exponent), ← Nat.mul_assoc]
  exact quotient_mul_self _ (by positivity) _

theorem worth_of_scaled_down (scaled : tokenBDecimals + price.scale = exponent + tokenADecimals) :
    worth tokenBAmount price tokenADecimals tokenBDecimals roundUp =
      quotient (tokenBAmount * price.mantissa.toNat) (10 ^ exponent) roundUp := by
  rw [worth, ← Nat.pow_add, scaled, Nat.pow_add]
  exact quotient_mul_right _ _ (by positivity) _

theorem pow10_eq_ok (computed : pow10 exponent = .ok value) : value = 10 ^ exponent := by
  induction exponent generalizing value with
  | zero => exact (Except.ok.inj computed).symm
  | succ exponent ih =>
    simp only [pow10, bind_eq_ok, orError_eq_ok, checkedMul_eq_some] at computed
    obtain ⟨smaller, power, -, rfl⟩ := computed
    rw [ih power, Nat.pow_succ]

theorem pow10U128_eq_some (computed : pow10U128 exponent = some value) : value = 10 ^ exponent :=
  (checkedNat_eq_some.mp computed).2

/-- The fast path computes the worth. -/
theorem tokenBToTokenAU128_eq_some
    (computed : tokenBToTokenAU128 tokenBAmount price.mantissa.toNat
      (priceExponent price tokenADecimals tokenBDecimals) roundUp = some value) :
    value = worth tokenBAmount price tokenADecimals tokenBDecimals roundUp := by
  simp only [tokenBToTokenAU128, Option.bind_eq_bind, Option.bind_eq_some_iff, checkedNat_eq_some,
    checkedMul_eq_some] at computed
  obtain ⟨amount, ⟨-, rfl⟩, product, ⟨-, rfl⟩, scaled⟩ := computed
  unfold priceExponent at scaled
  split at scaled
  · simp only [Option.bind_eq_some_iff, checkedMul_eq_some] at scaled
    obtain ⟨scale, power, -, rfl⟩ := scaled
    rw [pow10U128_eq_some power]
    exact (worth_of_scaled_up (by omega)).symm
  · simp only [Option.bind_eq_some_iff] at scaled
    obtain ⟨scale, power, rounded⟩ := scaled
    rw [roundedQuotient_eq_some rounded, pow10U128_eq_some power]
    exact (worth_of_scaled_down (by omega)).symm

theorem scaleUp_eq_ok {scaled : Nat} (computed : scaleUp value (exponent : Int) = .ok scaled) :
    scaled = value * 10 ^ exponent := by
  simp only [scaleUp, bind_eq_ok, require_eq_ok, orError_eq_ok, checkedMul_eq_some] at computed
  obtain ⟨-, -, scale, power, -, rfl⟩ := computed
  rw [pow10_eq_ok power, Int.toNat_natCast]

theorem tokenBToTokenA_eq_ok
    (computed : tokenBToTokenA tokenBAmount price tokenADecimals tokenBDecimals roundUp =
      .ok value) :
    0 < price.mantissa ∧ value = worth tokenBAmount price tokenADecimals tokenBDecimals roundUp := by
  simp only [tokenBToTokenA, positiveDecimalMantissa, bind_eq_ok, require_eq_ok, pure_eq_ok]
    at computed
  obtain ⟨mantissa, ⟨-, positive, rfl⟩, computed⟩ := computed
  refine ⟨positive, ?_⟩
  split at computed
  · cases computed
    exact tokenBToTokenAU128_eq_some ‹_›
  · simp only [bind_eq_ok, orError_eq_ok, checkedMul_eq_some] at computed
    obtain ⟨product, ⟨-, rfl⟩, scaled⟩ := computed
    split at scaled
    · rename_i below
      obtain ⟨exponent, same⟩ := Int.eq_ofNat_of_zero_le (Int.neg_nonneg_of_nonpos below)
      rw [same] at scaled
      rw [scaleUp_eq_ok (mapError_eq_ok.mp scaled)]
      unfold priceExponent at same
      exact (worth_of_scaled_up (by omega)).symm
    · simp only [bind_eq_ok, orError_eq_ok] at scaled
      obtain ⟨denominator, power, rounded⟩ := scaled
      rw [roundedQuotient_eq_some rounded, pow10_eq_ok power]
      unfold priceExponent at *
      exact (worth_of_scaled_down (by omega)).symm

/-! ## The recomputation -/

/-- What the recomputation says when one of its products does not fit. -/
def recheckOverflows : List String :=
  ["preflight decimal scale overflow", "preflight CEX quote numerator overflow",
    "preflight CEX quote denominator overflow", "preflight CEX quote rounding overflow",
    "preflight threshold proceeds overflow", "preflight threshold cost overflow"]

theorem tokenBAtPrice_okUnless (positive : 0 < price.mantissa) :
    OkUnless (· ∈ recheckOverflows)
      (· = worth tokenBAmount price tokenADecimals tokenBDecimals roundUp)
      (tokenBAtPriceInTokenABaseUnits tokenBAmount price tokenADecimals tokenBDecimals roundUp) := by
  unfold tokenBAtPriceInTokenABaseUnits pow10U256
  simp only [okUnless_bind]
  refine okUnless_require positive (okUnless_mapError (by simp [recheckOverflows]) ?_)
  intro scaleA powerA
  refine okUnless_orError (by simp [recheckOverflows]) ?_
  intro numerator multiplied
  refine okUnless_mapError (by simp [recheckOverflows]) ?_
  intro scaleB powerB
  refine okUnless_mapError (by simp [recheckOverflows]) ?_
  intro scalePrice powerPrice
  refine okUnless_orError (by simp [recheckOverflows]) ?_
  intro denominator product
  refine okUnless_orError (by simp [recheckOverflows]) ?_
  intro value rounded
  simp only [checkedMulMul, Option.bind_eq_bind, Option.bind_eq_some_iff, checkedMul_eq_some]
    at multiplied product
  obtain ⟨partial_, ⟨-, rfl⟩, -, rfl⟩ := multiplied
  rw [roundedQuotient_eq_some rounded, product.2, pow10_eq_ok powerA, pow10_eq_ok powerB,
    pow10_eq_ok powerPrice, worth]

/-- The proceeds exceed the cost by the threshold. -/
def Exceeds (proceeds cost thresholdBps : Nat) : Prop :=
  cost * (bpsDenominator + thresholdBps) ≤ proceeds * bpsDenominator

variable {cost proceeds thresholdBps : Nat}

theorem meetsThreshold_eq_ok {meets : Bool}
    (compared : meetsThreshold proceeds cost thresholdBps = .ok meets) :
    meets = true ↔ Exceeds proceeds cost thresholdBps := by
  unfold meetsThreshold thresholdSidesU128 at compared
  unfold Exceeds
  split at compared
  · rename_i left right fast
    simp only [Option.bind_eq_bind, Option.bind_eq_some_iff, checkedNat_eq_some, checkedMul_eq_some,
      Option.pure_def, Option.some.injEq, Prod.mk.injEq] at fast
    obtain ⟨_, ⟨-, rfl⟩, _, ⟨-, rfl⟩, _, ⟨-, rfl⟩, _, ⟨-, rfl⟩, rfl, rfl⟩ := fast
    rw [← Except.ok.inj compared, decide_eq_true_iff]
  · simp only [bind_eq_ok, orError_eq_ok, checkedMul_eq_some, pure_eq_ok] at compared
    obtain ⟨_, ⟨-, rfl⟩, _, ⟨-, rfl⟩, rfl⟩ := compared
    rw [decide_eq_true_iff]

theorem meetsSpreadThreshold_okUnless (positive : 0 < cost)
    (exceeds : Exceeds proceeds cost thresholdBps) :
    OkUnless (· ∈ recheckOverflows) (· = true) (meetsSpreadThreshold proceeds cost thresholdBps) := by
  unfold meetsSpreadThreshold
  simp only [okUnless_bind]
  refine okUnless_require positive (okUnless_orError (by simp [recheckOverflows]) ?_)
  intro left multiplied
  refine okUnless_orError (by simp [recheckOverflows]) ?_
  intro right multiplied'
  rw [(checkedMul_eq_some.mp multiplied).2, (checkedMul_eq_some.mp multiplied').2]
  exact decide_eq_true exceeds

end Worth

/-! ## What a trade says -/

theorem subtractBpsFloor_eq_ok (below : bps ≤ bpsDenominator)
    (subtracted : subtractBpsFloor amount bps = .ok value) :
    value = amount * (bpsDenominator - bps) / bpsDenominator := by
  have kept : bpsKept bps = bpsDenominator - bps := by
    unfold bpsKept wrappingSub bpsDenominator at *
    omega
  rw [← kept]
  unfold subtractBpsFloor subtractBpsFloorU128 at subtracted
  split at subtracted
  · rename_i fast
    cases subtracted
    simp only [Option.bind_eq_bind, Option.bind_eq_some_iff, checkedNat_eq_some,
      checkedMul_eq_some, Option.pure_def, Option.some.injEq] at fast
    obtain ⟨_, ⟨-, rfl⟩, _, ⟨-, rfl⟩, rfl⟩ := fast
    rfl
  · simp only [bind_eq_ok, orError_eq_ok, checkedMul_eq_some, pure_eq_ok] at subtracted
    obtain ⟨_, ⟨-, rfl⟩, rfl⟩ := subtracted
    rfl

theorem subtractBpsFloor_le (below : bps ≤ bpsDenominator)
    (subtracted : subtractBpsFloor amount bps = .ok value) : value ≤ amount := by
  rw [subtractBpsFloor_eq_ok below subtracted]
  apply Nat.div_le_of_le_mul
  rw [Nat.mul_comm]
  exact Nat.mul_le_mul_right amount (Nat.sub_le ..)

theorem slippageBps_le {pair : PairRuntime} {profitBps : Nat}
    (allocated : slippageBps pair profitBps = .ok value) : value ≤ pair.maxSlippageBps := by
  simp only [slippageBps, bind_eq_ok, pure_eq_ok] at allocated
  obtain ⟨_, -, _, -, rfl⟩ := allocated
  exact Nat.min_le_right ..

theorem signedProfitBpsX100_cost {proceeds cost : Nat} {profit : Int}
    (computed : signedProfitBpsX100 proceeds cost = .ok profit) : cost ≠ 0 := by
  simp only [signedProfitBpsX100, bind_eq_ok, require_eq_ok] at computed
  exact computed.choose_spec.1

/-- What a trade of a pool's curves says about the quotes it was made of: its two amounts, that it can
be quoted again for its minimum, and what its threshold compares. -/
structure Evaluated (pair : PairRuntime) (quotes : PreparedPoolQuotes) (quote : TopOfBook)
    (direction : ArbitrageDirection) (tokenBAmount dexTokenA cexTokenA : Nat)
    (trade : TradeEvaluation) : Prop where
  onDex : (quotes.byDirection direction).quote tokenBAmount = .ok dexTokenA
  onCex : cexTokenAAmount pair quote direction tokenBAmount = .ok cexTokenA
  costs : (venueAmounts direction dexTokenA cexTokenA).1 ≠ 0
  amountIn : trade.dexAmountIn =
    match direction with
    | .buyTokenBOnDexSellOnCex => dexTokenA
    | .buyTokenBOnCexSellOnDex => tokenBAmount
  requotes : ∃ amountOut, (quotes.exactInputByDirection direction).quote trade.dexAmountIn =
    .ok amountOut ∧ trade.dexAmountOutMinimum ≤ amountOut
  exceeds : trade.meetsThreshold = true →
    Exceeds (venueAmounts direction dexTokenA cexTokenA).2
      (venueAmounts direction dexTokenA cexTokenA).1 pair.opportunityThresholdBps

theorem quoteOutcome_available {result : Except Dex.ClmmError Nat}
    (outcome : quoteOutcome result = .ok (.available amount)) : result = .ok amount := by
  unfold quoteOutcome at outcome
  split at outcome
  · cases outcome
    rfl
  · cases outcome
  · cases outcome

variable {pair : PairRuntime} {preparedPools : PreparedPools} {quotes : PreparedPoolQuotes}
  {quote : TopOfBook} {direction : ArbitrageDirection} {poolIndex tokenBAmount : Nat}
  {trade : TradeEvaluation} {opportunity : PaperOpportunity} {pool : PreflightDexPool}

theorem evaluateTrade_spec (bounded : pair.maxSlippageBps ≤ bpsDenominator)
    (published : publishedQuotes preparedPools poolIndex = .ok quotes)
    (evaluated : evaluateTrade pair preparedPools quote direction poolIndex tokenBAmount =
      .ok (some trade)) :
    ∃ dexTokenA cexTokenA,
      Evaluated pair quotes quote direction tokenBAmount dexTokenA cexTokenA trade := by
  simp only [evaluateTrade, quoteDex, published, ok_bind, bind_eq_ok] at evaluated
  obtain ⟨outcome, quoted, cexTokenA, onCex, bounds⟩ := evaluated
  cases outcome with
  | insufficientLiquidity =>
    simp [boundedTrade, evaluateTradeWithDexQuote] at bounds
  | available dexTokenA =>
    have onDex := quoteOutcome_available quoted
    simp only [boundedTrade, evaluateTradeWithDexQuote, bind_eq_ok, pure_eq_ok] at bounds
    obtain ⟨_, ⟨profit, profited, slippage, allocated, ⟨amountIn, minimum⟩, amounts, meets, compared,
      rfl⟩, bounds⟩ := bounds
    simp only [bind_eq_ok, pure_eq_ok, applyDexExecutionBounds, require_eq_ok,
      Option.some.injEq] at bounds
    obtain ⟨_, ⟨least, executed, -, -, -, -, rfl⟩, rfl⟩ := bounds
    have slipped := (slippageBps_le allocated).trans bounded
    refine ⟨dexTokenA, cexTokenA, onDex, onCex, signedProfitBpsX100_cost profited, ?_, ?_, ?_⟩
    · cases direction with
      | buyTokenBOnDexSellOnCex =>
        cases amounts
        rfl
      | buyTokenBOnCexSellOnDex =>
        simp only [dexAmounts, bind_eq_ok, pure_eq_ok, Prod.mk.injEq] at amounts
        obtain ⟨_, -, rfl, -⟩ := amounts
        rfl
    · cases direction with
      | buyTokenBOnDexSellOnCex =>
        cases amounts
        simp only [executionMinimum, published, ok_bind, bind_eq_ok, mapError_eq_ok] at executed
        obtain ⟨expected, requoted, subtracted⟩ := executed
        exact ⟨expected, requoted, subtractBpsFloor_le slipped subtracted⟩
      | buyTokenBOnCexSellOnDex =>
        simp only [dexAmounts, bind_eq_ok, pure_eq_ok, Prod.mk.injEq] at amounts
        obtain ⟨_, subtracted, rfl, rfl⟩ := amounts
        cases executed
        exact ⟨dexTokenA, onDex, subtractBpsFloor_le slipped subtracted⟩
    · exact (meetsThreshold_eq_ok compared).mp

/-! ## Agreement -/

/-- What an opportunity takes over from the trade it is made of. -/
structure PaperOpportunity.Carries (opportunity : PaperOpportunity) (pair : PairRuntime)
    (direction : ArbitrageDirection) (trade : TradeEvaluation) : Prop where
  direction : opportunity.direction = direction
  amountIn : opportunity.dexPlan.amountInBaseUnits = trade.dexAmountIn
  minimum : opportunity.dexPlan.amountOutMinimumBaseUnits = trade.dexAmountOutMinimum
  threshold : opportunity.admission.opportunityThresholdBps = pair.opportunityThresholdBps

/-- The preflight holds the curves that an opportunity was found on. -/
structure PreflightDexPool.Holds (pool : PreflightDexPool) (pair : PairRuntime)
    (quotes : PreparedPoolQuotes) (feeGeneration : Nat) : Prop where
  tokenADecimals : pool.tokenADecimals = pair.tokenADecimals
  tokenBDecimals : pool.tokenBDecimals = pair.tokenBDecimals
  curves : pool.exactInputByDirection = quotes.exactInputByDirection
  feeGeneration : pool.feeGeneration = feeGeneration

section Agreement

variable {dexTokenA cexTokenA amountOut feeGeneration : Nat}

/-- What the output of a quote has to be for the spread to stand. -/
def Yields (direction : ArbitrageDirection) (tokenBAmount dexTokenA amountOut : Nat) : Prop :=
  match direction with
  | .buyTokenBOnDexSellOnCex => tokenBAmount ≤ amountOut
  | .buyTokenBOnCexSellOnDex => dexTokenA = amountOut

section

variable (evaluated : Evaluated pair quotes quote direction tokenBAmount dexTokenA cexTokenA trade)
include evaluated

section

variable (meets : trade.meetsThreshold = true)
include meets

theorem currentAmounts_okUnless
    (holds : pool.Holds pair quotes feeGeneration)
    (yields : Yields direction tokenBAmount dexTokenA amountOut) :
    OkUnless (· ∈ recheckOverflows)
      (fun amounts => 0 < amounts.1 ∧ Exceeds amounts.2 amounts.1 pair.opportunityThresholdBps)
      (pool.currentAmounts quote direction trade.dexAmountIn amountOut) := by
  have onCex := evaluated.onCex
  have costs := evaluated.costs
  have exceeds := evaluated.exceeds meets
  unfold PreflightDexPool.currentAmounts
  rw [evaluated.amountIn, holds.tokenADecimals, holds.tokenBDecimals]
  cases direction with
  | buyTokenBOnDexSellOnCex =>
    obtain ⟨positive, rfl⟩ := tokenBToTokenA_eq_ok onCex
    rw [okUnless_bind]
    refine (tokenBAtPrice_okUnless positive).mono ?_
    intro proceeds priced
    subst priced
    -- the swap yields at least the amount that was priced, so it is worth at least as much
    have more := worth_mono yields quote.bidPrice pair.tokenADecimals pair.tokenBDecimals
    exact ⟨Nat.pos_of_ne_zero costs, exceeds.trans (Nat.mul_le_mul_right _ more)⟩
  | buyTokenBOnCexSellOnDex =>
    obtain ⟨positive, rfl⟩ := tokenBToTokenA_eq_ok onCex
    cases yields
    rw [okUnless_bind]
    refine (tokenBAtPrice_okUnless positive).mono ?_
    intro cost priced
    subst priced
    exact ⟨Nat.pos_of_ne_zero costs, exceeds⟩

variable (carries : opportunity.Carries pair direction trade)
  (holds : pool.Holds pair quotes opportunity.dexFeeGeneration)

include carries holds

/-- The spread is accepted when the output of the swap is worth at least what the trade counted on. -/
theorem recheckSpread_okUnless
    (yields : Yields direction tokenBAmount dexTokenA amountOut) :
    OkUnless (· ∈ recheckOverflows) (· = none) (pool.recheckSpread quote opportunity amountOut) := by
  unfold PreflightDexPool.recheckSpread
  rw [carries.direction, carries.amountIn, carries.threshold, holds.feeGeneration]
  simp only [okUnless_bind]
  refine (currentAmounts_okUnless evaluated meets holds yields).mono ?_
  intro amounts exceeds
  refine (meetsSpreadThreshold_okUnless exceeds.1 exceeds.2).mono ?_
  intro accepted isTrue
  subst isTrue
  simp [okUnless_pure]

theorem recheck_okUnless
    (yields : ∀ amountOut, (quotes.exactInputByDirection direction).quote trade.dexAmountIn =
      .ok amountOut → Yields direction tokenBAmount dexTokenA amountOut) :
    OkUnless (· ∈ recheckOverflows) (· = none) (pool.recheck quote opportunity) := by
  obtain ⟨amountOut, requoted, enough⟩ := evaluated.requotes
  unfold PreflightDexPool.recheck
  simp only [carries.direction, carries.amountIn, carries.minimum, holds.curves, requoted,
    if_neg (Nat.not_lt.mpr enough)]
  exact recheckSpread_okUnless evaluated meets carries holds (yields amountOut requoted)

end

end

end Agreement

section Curves

variable {snapshot : PoolSnapshot}

/-- The curves that a buy goes over are built of one pool, in one direction. -/
theorem buy_curves (built : snapshot.quotes = .ok quotes) :
    snapshot.pool.prepareQuoteCurveReusing snapshot.exactOutputZeroForOne .exactOutput
        quotes.exactOutputTokenBLimit none = .ok quotes.exactOutput ∧
      snapshot.pool.prepareQuoteCurveReusing snapshot.exactOutputZeroForOne .exactInput
        snapshot.tokenALimit none = .ok quotes.tokenAExactInput := by
  simp only [PoolSnapshot.quotes, preparePoolQuotesFromPool, bind_eq_ok, pure_eq_ok,
    mapError_eq_ok] at built
  obtain ⟨tokenAExactInput, first, _, _, _, _, _, _, _, third, rfl⟩ := built
  exact ⟨third, first⟩

/-- The recomputation on the curves of an evaluation accepts what met the threshold there, unless one
of its products does not fit.  The output of a buy must not end inside a leg behind legs that cost
something and yield nothing, and the products of its last step must fit. -/
theorem recheck_accepts_evaluated_trade (sound : snapshot.pool.Sound)
    (built : snapshot.quotes = .ok quotes) (bounded : pair.maxSlippageBps ≤ bpsDenominator)
    (published : publishedQuotes preparedPools poolIndex = .ok quotes)
    (evaluated : evaluateTrade pair preparedPools quote direction poolIndex tokenBAmount =
      .ok (some trade))
    (meets : trade.meetsThreshold = true) (carries : opportunity.Carries pair direction trade)
    (holds : pool.Holds pair quotes opportunity.dexFeeGeneration)
    (fits : direction = .buyTokenBOnDexSellOnCex → ∀ part left last,
      ClmmPool.EndsInside snapshot.pool snapshot.exactOutputZeroForOne tokenBAmount 0
        snapshot.pool.start part left last →
      snapshot.pool.PartFits snapshot.exactOutputZeroForOne last part)
    (free : direction = .buyTokenBOnDexSellOnCex →
      ClmmPool.MissesNothing snapshot.pool snapshot.exactOutputZeroForOne
        quotes.exactOutputTokenBLimit tokenBAmount 0 0 snapshot.pool.start) :
    pool.recheck quote opportunity = .ok none ∨
      ∃ overflow ∈ recheckOverflows, pool.recheck quote opportunity = .error overflow := by
  obtain ⟨dexTokenA, cexTokenA, spec⟩ := evaluateTrade_spec bounded published evaluated
  have yields : ∀ amountOut, (quotes.exactInputByDirection direction).quote trade.dexAmountIn =
      .ok amountOut → Yields direction tokenBAmount dexTokenA amountOut := by
    intro amountOut requoted
    rw [spec.amountIn] at requoted
    cases direction with
    | buyTokenBOnDexSellOnCex =>
      obtain ⟨builtOut, builtIn⟩ := buy_curves built
      exact sound.le_requote builtOut builtIn (free rfl) (fits rfl) spec.onDex requoted
    | buyTokenBOnCexSellOnDex => exact Except.ok.inj (spec.onDex.symm.trans requoted)
  have accepted := recheck_okUnless spec meets carries holds yields
  cases result : pool.recheck quote opportunity with
  | ok rejection =>
    rw [result] at accepted
    exact .inl (congrArg _ accepted)
  | error failure =>
    rw [result] at accepted
    exact .inr ⟨failure, accepted, rfl⟩

end Curves

/-! ## A buy across a boundary -/

/-- A pair that asks for ten basis points. -/
def spreadPair : PairRuntime where
  symbol := "ABC"
  tokenADecimals := 18
  tokenBDecimals := 18
  opportunityThresholdBps := 10
  minSlippageBps := 1
  maxSlippageBps := 50
  slippageProfitShareBps := 5000
  baselineTokenA := 503
  preparedTokenALimit := 1007
  tokenBStep := 1
  tokenA := 1
  tokenB := 2
  poolIndices := [0]
  selectionPoolIndices := [0]

/-- The price `1.008`, on both sides. -/
def spreadPrice : Decimal :=
  ⟨1008, 3, by decide, by decide⟩

def spreadQuote : TopOfBook :=
  ⟨"ABC", spreadPrice, spreadPrice, spreadPrice, spreadPrice⟩

/-- The trade that buys 500 units for 503, with what its input is quoted for as its minimum. -/
def spreadTrade (minimum : Nat) : TradeEvaluation where
  poolIndex := 0
  tokenBAmount := 500
  dexTokenAAmount := 503
  cexTokenAAmount := 504
  costTokenA := 503
  proceedsTokenA := 504
  dexAmountIn := 503
  dexAmountOutMinimum := minimum
  executionSlippageBps := 9
  grossProfitBpsX100 := 1988
  meetsThreshold := true

/-- The opportunity of a trade. -/
def spreadOpportunity (trade : TradeEvaluation) : PaperOpportunity where
  sourceRevision := "r"
  pairId := "p"
  symbol := "ABC"
  updateId := 1
  receivedUnixUs := 1
  reservationCompletedUnixUs := 1
  direction := .buyTokenBOnDexSellOnCex
  dexPoolIndex := 0
  dexPoolGeneration := 1
  dexFeeGeneration := 0
  tokenBBaseUnits := trade.tokenBAmount
  tokenBStepBaseUnits := 1
  costTokenABaseUnits := trade.costTokenA
  proceedsTokenABaseUnits := trade.proceedsTokenA
  admission := {
    opportunityThresholdMet := true
    opportunityThresholdBps := 10
    depthSource := none
    depthAgeMs := none
    depthUpdateDelta := none
    topMatches := none
    topMismatchReason := none
    executionSlippageBps := trade.executionSlippageBps
    cexPrimaryLimitPrice := 126 / 125
    cexPrimaryTopQuantity := 126 / 125
    cexRecoveryLimitPrice := 1
    cexRecoverySellLimitPrice := none
    cexRecoveryBuyLimitPrice := none
    recoveryQuoteTokenABaseUnits := 1
    recoverySellQuoteTokenABaseUnits := 0
    recoveryBuyQuoteTokenABaseUnits := 0
    maximumRecoveryLossTokenABaseUnits := 0
    maximumFeePerGasWei := 1
    gasConversionPriceTokenA := 1
    maximumGasCostTokenABaseUnits := 1
    boundedProfitTokenABaseUnits := 0 }
  dexPlan := {
    route := .uniswapV3 "0x0000000000000000000000000000000000000003"
      "0x0000000000000000000000000000000000000004" 3000
    tokenIn := "0x0000000000000000000000000000000000000001"
    tokenOut := "0x0000000000000000000000000000000000000002"
    amountInBaseUnits := trade.dexAmountIn
    amountOutMinimumBaseUnits := trade.dexAmountOutMinimum
    deadlineUnixSeconds := 1 }

theorem spreadOpportunity_carries (minimum : Nat) :
    (spreadOpportunity (spreadTrade minimum)).Carries spreadPair .buyTokenBOnDexSellOnCex
      (spreadTrade minimum) :=
  ⟨rfl, rfl, rfl, rfl⟩

/-- The preflight's pool with the curves of a build. -/
def spreadPool (quotes : PreparedPoolQuotes) : PreflightDexPool :=
  ⟨1, 0, 18, 18, quotes.exactInputByDirection⟩

/-- A pool on either side of which token A is bought with the other token. -/
def spreadSnapshot (zeroForOne : Bool) : PoolSnapshot :=
  ⟨ClmmPool.aboveBoundary, zeroForOne, !zeroForOne, 1007, false⟩

/-- The curves of a segment from each price. -/
def segmentDown (specifiedEnd resultEnd : Nat) : Dex.PreparedQuoteSegment :=
  ⟨specifiedEnd, resultEnd, 2 ^ 96, 36758526794156967312715787618, 10 ^ 18⟩

def segmentUp (specifiedEnd resultEnd : Nat) : Dex.PreparedQuoteSegment :=
  ⟨specifiedEnd, resultEnd, 2 ^ 96 + 1, 170254363637599206452736906702, 10 ^ 18⟩

/-- The step to the boundary costs two units and yields none. -/
def segmentToBoundary : Dex.PreparedQuoteSegment :=
  ⟨2, 0, 2 ^ 96 + 1, 2 ^ 96, 10 ^ 18⟩

/-- The curves when a buy moves the price up. -/
def quotesUp : PreparedPoolQuotes where
  exactOutput := ⟨.exactOutput, 3000, [segmentUp 1002 1007]⟩
  exactInput := ⟨.exactInput, 3000, [segmentToBoundary, segmentDown 1014 1007]⟩
  tokenAExactInput := ⟨.exactInput, 3000, [segmentUp 1007 1002]⟩
  tokenALimit := 1007
  exactOutputTokenBLimit := 1002
  exactInputTokenBLimit := 1014
  dynamicFee := false
  feeZeroForOnePips := 3000
  feeOneForZeroPips := 3000

/-- The curves when a buy moves the price down, across the boundary. -/
def quotesDown : PreparedPoolQuotes where
  exactOutput := ⟨.exactOutput, 3000, [segmentDown 1000 1007]⟩
  exactInput := ⟨.exactInput, 3000, [segmentUp 1012 1007]⟩
  tokenAExactInput := ⟨.exactInput, 3000, [segmentToBoundary, segmentDown 1007 1000]⟩
  tokenALimit := 1007
  exactOutputTokenBLimit := 1000
  exactInputTokenBLimit := 1012
  dynamicFee := false
  feeZeroForOnePips := 3000
  feeOneForZeroPips := 3000

/-- Away from the boundary the buy passes. -/
theorem recheck_accepts_buy_away_from_the_boundary :
    (spreadOpportunity (spreadTrade 499)).validate = .ok () ∧
      (spreadPool quotesUp).recheck spreadQuote (spreadOpportunity (spreadTrade 499)) =
        .ok none := by
  have long : ¬ ClmmPool.aboveBoundary.legOutput false ClmmPool.aboveBoundary.start ≤ 500 := by
    decide +kernel
  have ends : ∀ part left last, ClmmPool.EndsInside ClmmPool.aboveBoundary false 500 0
      ClmmPool.aboveBoundary.start part left last →
      left = 0 ∧ ClmmPool.aboveBoundary.PartFits false last part := by
    intro part left last inside
    cases inside with
    | here => exact ⟨rfl, fun down => absurd down (by decide +kernel)⟩
    | leg _ covers => exact absurd covers long
  have evaluated : evaluateTrade spreadPair [some ⟨0, 1, quotesUp⟩] spreadQuote
      .buyTokenBOnDexSellOnCex 0 500 = .ok (some (spreadTrade 499)) := by decide +kernel
  have built : (spreadSnapshot false).quotes = .ok quotesUp := by decide +kernel
  have holds : (spreadPool quotesUp).Holds spreadPair quotesUp
      (spreadOpportunity (spreadTrade 499)).dexFeeGeneration := ⟨rfl, rfl, rfl, rfl⟩
  have accepted := recheck_accepts_evaluated_trade ClmmPool.aboveBoundary_reachable.sound built
    (by decide) rfl evaluated rfl (spreadOpportunity_carries 499) holds
    (fun _ part left last inside => (ends part left last inside).2)
    (fun _ _ part left last inside => (ends part left last inside).1)
  exact ⟨by decide +kernel, accepted.resolve_right (by decide +kernel)⟩

/-- Across the boundary the input of the buy lacks the two units of the first step and yields 498, so
that the recomputation rejects a trade that its own shortcut accepts. -/
theorem recheck_rejects_buy_across_the_boundary :
    ClmmPool.aboveBoundary.Reachable ∧ (spreadSnapshot true).quotes = .ok quotesDown ∧
      evaluateTrade spreadPair [some ⟨0, 1, quotesDown⟩] spreadQuote .buyTokenBOnDexSellOnCex 0 500 =
        .ok (some (spreadTrade 497)) ∧
      (spreadOpportunity (spreadTrade 497)).Carries spreadPair .buyTokenBOnDexSellOnCex
        (spreadTrade 497) ∧
      (spreadOpportunity (spreadTrade 497)).validate = .ok () ∧
      (spreadPool quotesDown).unchanged spreadQuote (spreadOpportunity (spreadTrade 497)) = true ∧
      (spreadPool quotesDown).recheck spreadQuote (spreadOpportunity (spreadTrade 497)) =
        .ok (some ⟨"preflight_spread_below_threshold",
          "current proceeds 501 and cost 503 no longer satisfy 10 bps"⟩) :=
  ⟨ClmmPool.aboveBoundary_reachable, by decide +kernel, by decide +kernel,
    spreadOpportunity_carries 497, by decide +kernel, by decide +kernel, by decide +kernel⟩

end PolyBot.Opportunity
