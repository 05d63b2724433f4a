import PolyBot.Dex.OutputCurve
import PolyBot.Lib.SwapReach

/-!
# Quotes there and back

What an exact output costs is quoted again as an exact input on the curve of the other kind.  Both
traversals go over the same legs, so the input covers every whole leg of the output, and on the last
leg it yields at least the part that was asked for.

* `ClmmPool.OutputPath.paid_lt`: an output costs something.
* `ClmmPool.Sound.requote_ge`: the curve of exact inputs yields the output from what its path pays.
-/

namespace PolyBot.Dex

open SwapMath

namespace ClmmPool

variable {pool : ClmmPool} {zeroForOne : Bool} {bound total result amount value : Nat}
  {walk next : Walk} {tail : List PreparedQuoteSegment} {curve : PreparedQuoteCurve}
  {totals final : OutputTotals}

/-! ## What an output costs -/

theorem OutputPath.paid_le (path : OutputPath pool zeroForOne totals walk final) :
    totals.paid ≤ final.paid := by
  induction path with
  | stop => exact le_rfl
  | leg _ _ _ _ ih => exact (Nat.le_add_right ..).trans ih
  | limit | part => exact Nat.le_add_right ..

/-- Where nothing remains, the path is over. -/
theorem OutputPath.done (path : OutputPath pool zeroForOne totals walk final)
    (none : totals.remaining = 0) : final = totals :=
  (outputPath_stop_iff fun produces => produces.positive none).mp path

theorem OutputPath.paid_lt (path : OutputPath pool zeroForOne totals walk final)
    (valid : walk.Valid zeroForOne) (positive : totals.remaining ≠ 0)
    (none : final.remaining = 0) : totals.paid < final.paid := by
  induction path with
  | stop => exact absurd none positive
  | @leg totals final walk next produces covers crosses rest ih =>
    by_cases yields : pool.legOutput zeroForOne walk = 0
    · have positive' : totals.remaining - pool.legOutput zeroForOne walk ≠ 0 := by omega
      have paid := ih (crosses.valid valid) positive' none
      exact lt_of_le_of_lt (Nat.le_add_right ..) paid
    · have costs := legCost_ne_zero valid yields
      have paid : totals.paid + pool.legCost zeroForOne walk ≤ final.paid := rest.paid_le
      omega
  | @limit totals walk produces covers elsewhere =>
    have yields : pool.legOutput zeroForOne walk ≠ 0 := by
      change totals.remaining - pool.legOutput zeroForOne walk = 0 at none
      omega
    have costs := legCost_ne_zero valid yields
    change totals.paid < totals.paid + pool.legCost zeroForOne walk
    omega
  | @part totals walk produces less passes =>
    have costs := partCost_ne_zero valid positive less
    change totals.paid < totals.paid + pool.partCost zeroForOne walk totals.remaining
    omega

/-! ## Quotes of an input on the first leg and behind it -/

/-- Up to the end of the first leg, the quote is a step on it. -/
theorem CurveOf.quoteFrom_on_leg (input : CurveOf pool zeroForOne .exactInput curve)
    (path : Tail pool zeroForOne .exactInput bound total result walk tail)
    (above : total < amount) (within : amount ≤ total + pool.legCost zeroForOne walk)
    (quoted : curve.quoteFrom amount total result tail = .ok value) :
    amount = total + pool.legCost zeroForOne walk ∧
        value = result + pool.legOutput zeroForOne walk ∨
      amount < total + pool.legCost zeroForOne walk ∧
        ∃ step, pool.inputStep zeroForOne walk (amount - total) = some step ∧
          value = result + step.amountOut := by
  cases path with
  | stop => cases quoted
  | leg | limit =>
    have onLeg := (curve.quoteFrom_keep_inside rfl above within).symm.trans quoted
    rcases (input.quoteSegment_eq_ok above.le).mp onLeg with atEnd | ⟨ne, step, computed, _, isValue⟩
    · exact Or.inl atEnd
    · exact Or.inr ⟨lt_of_le_of_ne within ne, step, computed, isValue⟩
  | part builds less computed passes =>
    replace less : bound < total + pool.legCost zeroForOne walk := less
    rw [PreparedQuoteCurve.quoteFrom] at quoted
    split at quoted
    · cases quoted
    · rename_i inside
      have before : amount ≤ bound := Nat.not_lt.mp inside
      refine Or.inr ⟨by omega, ?_⟩
      rcases (input.quoteSegment_eq_ok above.le).mp quoted with ⟨rfl, rfl⟩ | ⟨_, step, stepped, _, isValue⟩
      · exact ⟨_, computed, rfl⟩
      · exact ⟨step, stepped, isValue⟩

/-- At the end of the first leg, the quote is its whole result. -/
theorem CurveOf.quoteFrom_whole_leg (input : CurveOf pool zeroForOne .exactInput curve)
    (path : Tail pool zeroForOne .exactInput bound total result walk tail)
    (costs : pool.legCost zeroForOne walk ≠ 0)
    (quoted : curve.quoteFrom (total + pool.legCost zeroForOne walk) total result tail = .ok value) :
    value = result + pool.legOutput zeroForOne walk := by
  rcases input.quoteFrom_on_leg path (by omega) le_rfl quoted with ⟨_, isValue⟩ | ⟨less, _⟩
  · exact isValue
  · exact absurd less (Nat.lt_irrefl _)

/-- Past the first leg, the quote is on the segments behind it. -/
theorem quoteFrom_behind_leg
    (path : Tail pool zeroForOne .exactInput bound total result walk tail)
    (valid : walk.Valid zeroForOne) (behind : total + pool.legCost zeroForOne walk < amount)
    (quoted : curve.quoteFrom amount total result tail = .ok value) :
    ∃ next rest, pool.beyond zeroForOne walk = some next ∧
      Tail pool zeroForOne .exactInput bound (total + pool.legCost zeroForOne walk)
        (result + pool.legOutput zeroForOne walk) next rest ∧
      curve.quoteFrom amount (total + pool.legCost zeroForOne walk)
        (result + pool.legOutput zeroForOne walk) rest = .ok value := by
  cases path with
  | stop => cases quoted
  | leg builds covers crosses rest =>
    refine ⟨_, _, crosses.beyond, rest, ?_⟩
    rw [← quoted]
    exact (curve.quoteFrom_keep_behind rfl rfl (legOutput_eq_zero valid) behind).symm
  | limit builds covers elsewhere =>
    have none := (curve.quoteFrom_keep_behind rfl rfl (legOutput_eq_zero valid) behind).symm.trans
      quoted
    cases none
  | part builds less computed passes =>
    replace less : bound < total + pool.legCost zeroForOne walk := less
    change (if bound < amount then _ else _) = _ at quoted
    rw [if_pos (less.trans behind)] at quoted
    cases quoted

/-! ## There and back -/

/-- The products of the price after the cost of a part of a leg fit into a word. -/
def PartFits (pool : ClmmPool) (zeroForOne : Bool) (walk : Walk) (amount : Nat) : Prop :=
  InputFits walk.sqrtPriceX96 (pool.target zeroForOne walk) walk.liquidity
    (pool.partCost zeroForOne walk amount) (pool.feePipsForDirection zeroForOne)

/-- What a path of exact output pays yields the output again on the curve of exact inputs. -/
theorem Sound.requote_ge (sound : pool.Sound) (input : CurveOf pool zeroForOne .exactInput curve)
    {missed : Nat} (path : OutputPath pool zeroForOne totals walk final)
    (tailPath : Tail pool zeroForOne .exactInput bound totals.paid result walk tail)
    (valid : walk.Valid zeroForOne) (positive : totals.remaining ≠ 0) (none : final.remaining = 0)
    (fits : ∀ part left last,
      EndsInside pool zeroForOne totals.remaining missed walk part left last →
      pool.PartFits zeroForOne last part)
    (quoted : curve.quoteFrom final.paid totals.paid result tail = .ok value) :
    result + totals.remaining ≤ value := by
  induction path generalizing result tail missed with
  | stop => exact absurd none positive
  | @leg totals final walk next produces covers crosses rest ih =>
    by_cases last : totals.remaining = pool.legOutput zeroForOne walk
    · -- the leg is the last one, and it is paid for as a whole
      have costs := legCost_ne_zero valid (last ▸ positive)
      cases rest.done (Nat.sub_eq_zero_of_le last.le)
      have isValue := input.quoteFrom_whole_leg tailPath costs quoted
      omega
    · have positive' : totals.remaining - pool.legOutput zeroForOne walk ≠ 0 := by omega
      have valid' := crosses.valid valid
      have paid : totals.paid + pool.legCost zeroForOne walk < final.paid :=
        rest.paid_lt valid' positive' none
      obtain ⟨next', rest', crossed, tailRest, quotedRest⟩ :=
        quoteFrom_behind_leg tailPath valid paid quoted
      cases crosses.beyond.symm.trans crossed
      have grown := ih tailRest valid' positive' none
        (fun part left last inside => fits part left last (.leg produces covers crosses inside))
        quotedRest
      change result + pool.legOutput zeroForOne walk +
        (totals.remaining - pool.legOutput zeroForOne walk) ≤ value at grown
      omega
  | @limit totals walk produces covers elsewhere =>
    change totals.remaining - pool.legOutput zeroForOne walk = 0 at none
    have costs : pool.legCost zeroForOne walk ≠ 0 := legCost_ne_zero valid (by omega)
    have isValue := input.quoteFrom_whole_leg tailPath costs quoted
    omega
  | @part totals walk produces less passes =>
    have costs := partCost_ne_zero valid positive less
    have le := sound.partCost_le valid totals.remaining
    change curve.quoteFrom (totals.paid + pool.partCost zeroForOne walk totals.remaining) _ _ _ = _
      at quoted
    rcases input.quoteFrom_on_leg tailPath (by omega) (by omega) quoted with
      ⟨_, isValue⟩ | ⟨partly, step, computed, isValue⟩
    · omega
    · rw [Nat.add_sub_cancel_left] at computed
      have fit := fits _ _ _ (.here produces less)
      have yields := le_amountOut_of_cost (valid.priced pool) sound.fee_lt less
        (by change pool.partCost zeroForOne walk totals.remaining < pool.legCost zeroForOne walk; omega)
        fit computed
      omega

/-- An output that is quoted on its curve without a missed cost is no more than what its cost yields
on the curve of exact inputs. -/
theorem Sound.le_requote (sound : pool.Sound) {boundOut boundIn cost : Nat}
    {outputCurve inputCurve : PreparedQuoteCurve} {previousOut previousIn : Option PreparedQuoteCurve}
    (builtOut : pool.prepareQuoteCurveReusing zeroForOne .exactOutput boundOut previousOut =
      .ok outputCurve)
    (builtIn : pool.prepareQuoteCurveReusing zeroForOne .exactInput boundIn previousIn =
      .ok inputCurve)
    (free : MissesNothing pool zeroForOne boundOut amount 0 0 pool.start)
    (fits : ∀ part left last, EndsInside pool zeroForOne amount 0 pool.start part left last →
      pool.PartFits zeroForOne last part)
    (quotedOut : outputCurve.quote amount = .ok cost)
    (quotedIn : inputCurve.quote cost = .ok value) : amount ≤ value := by
  obtain ⟨-, -, drawnOut, pathOut⟩ := sound.built builtOut
  obtain ⟨-, -, drawnIn, pathIn⟩ := sound.built builtIn
  obtain ⟨positive, -, onOutput⟩ := PreparedQuoteCurve.quote_eq_ok quotedOut
  obtain ⟨-, -, onInput⟩ := PreparedQuoteCurve.quote_eq_ok quotedIn
  have within : ∃ segment ∈ outputCurve.segments, amount ≤ segment.specifiedEnd := by
    by_contra outside
    have below : ∀ segment ∈ outputCurve.segments, segment.specifiedEnd < amount := by
      intro segment mem
      by_contra inside
      exact outside ⟨segment, mem, Nat.not_lt.mp inside⟩
    rw [quoteFrom_error 0 0 below] at onOutput
    cases onOutput
  obtain ⟨paid, quoted, pays⟩ := sound.agrees_of_not_missed drawnOut pathOut rfl free
    sound.valid_start sound.roomy_start (Nat.pos_of_ne_zero positive) within
  cases quoted.symm.trans onOutput
  obtain ⟨final, path, none, isPaid⟩ := pays 0
  rw [Nat.sub_zero] at path
  rw [← isPaid] at onInput
  have yields := sound.requote_ge drawnIn path pathIn sound.valid_start positive none fits onInput
  rwa [Nat.zero_add] at yields

end ClmmPool

end PolyBot.Dex
