import PolyBot.Dex.Curves
import PolyBot.Dex.OutputPaths

/-!
# Curves of exact outputs

A leg whose output rounds to nothing still costs input.  The builder of a curve adds the cost to its
total and keeps no segment, and a quote inside the next segment starts from the end of the last one
that was kept, so the cost is missed there.

* `ClmmPool.output_curve_agrees_iff`: every amount up to the capacity has the quote of the loop on the
  curve, unless a leg that yields at least two units follows legs that cost something and yield
  nothing.
-/

namespace PolyBot.Dex

open SwapMath

namespace ClmmPool

/-- What the quotes inside the next segment miss, behind a leg. -/
def missedBehind (pool : ClmmPool) (zeroForOne : Bool) (walk : Walk) (missed : Nat) : Nat :=
  if pool.legOutput zeroForOne walk = 0 then missed + pool.legCost zeroForOne walk else 0

/-- Below the bound, the legs of the traversal lead to one that yields two units or more, straight
behind legs that cost something and yield nothing. -/
inductive MissesBelow (pool : ClmmPool) (zeroForOne : Bool) (bound : Nat) :
    Nat → Nat → Walk → Prop
  | here {total missed : Nat} {walk : Walk} (builds : Builds zeroForOne bound total walk)
      (costly : missed ≠ 0) (inside : 2 ≤ pool.legOutput zeroForOne walk)
      (room : total + 2 ≤ bound) : MissesBelow pool zeroForOne bound total missed walk
  | leg {total missed : Nat} {walk next : Walk} (builds : Builds zeroForOne bound total walk)
      (covers : total + pool.legOutput zeroForOne walk ≤ bound)
      (crosses : pool.Crosses zeroForOne walk next)
      (rest : MissesBelow pool zeroForOne bound (total + pool.legOutput zeroForOne walk)
        (pool.missedBehind zeroForOne walk missed) next) :
      MissesBelow pool zeroForOne bound total missed walk

/-- The whole legs of an output lead from here to a leg that yields the rest of it in part; on the
way, what was paid on legs without output directly before is carried along. -/
inductive EndsInside (pool : ClmmPool) (zeroForOne : Bool) :
    Nat → Nat → Walk → Nat → Nat → Walk → Prop
  | here {remaining missed : Nat} {walk : Walk} (produces : Produces zeroForOne remaining walk)
      (less : remaining < pool.legOutput zeroForOne walk) :
      EndsInside pool zeroForOne remaining missed walk remaining missed walk
  | leg {remaining missed part left : Nat} {walk next last : Walk}
      (produces : Produces zeroForOne remaining walk)
      (covers : pool.legOutput zeroForOne walk ≤ remaining)
      (crosses : pool.Crosses zeroForOne walk next)
      (rest : EndsInside pool zeroForOne (remaining - pool.legOutput zeroForOne walk)
        (pool.missedBehind zeroForOne walk missed) next part left last) :
      EndsInside pool zeroForOne remaining missed walk part left last

section Output

variable {pool : ClmmPool} {zeroForOne : Bool} {bound total start missed amount : Nat}
  {walk next : Walk} {tail : List PreparedQuoteSegment} {curve : PreparedQuoteCurve}

/-- Part of an output does not end at a tick behind the limit. -/
theorem partPrice_ne_boundary (valid : walk.Valid zeroForOne)
    (elsewhere : ¬ pool.EndsAtTick zeroForOne walk) (positive : amount ≠ 0)
    (less : amount < pool.legOutput zeroForOne walk) :
    pool.partPrice zeroForOne walk amount ≠
      (pool.boundaryAt zeroForOne walk.tick).sqrtPriceNextX96 := by
  have moved : pool.partPrice zeroForOne walk amount ≠ walk.sqrtPriceX96 :=
    priceYielding_ne (valid.priced pool) (Nat.pos_of_ne_zero positive) less
  obtain ⟨-, forward, short, -, -⟩ := getNextSqrtPriceFromOutput_eq (valid.priced pool) less
  intro reached
  unfold partPrice priceYielding at reached moved
  rw [reached] at forward short moved
  exact moved (lowest_of_touch valid ⟨forward, short⟩ elsewhere).2.2

/-- Where the loop can end with an output of the leg, it can with a smaller one. -/
theorem Passes.of_le {more : Nat} (valid : walk.Valid zeroForOne) (positive : amount ≠ 0)
    (le : amount ≤ more) (less : more < pool.legOutput zeroForOne walk)
    (passes : pool.Passes zeroForOne walk (pool.partPrice zeroForOne walk more)) :
    pool.Passes zeroForOne walk (pool.partPrice zeroForOne walk amount) := by
  intro reached
  by_cases ends : pool.EndsAtTick zeroForOne walk
  · have further : pool.partPrice zeroForOne walk more = pool.target zeroForOne walk :=
      priceYielding_target (valid.priced pool) le less (reached.trans ends.symm)
    exact passes (further.trans ends)
  · exact absurd reached (partPrice_ne_boundary valid ends positive (lt_of_le_of_lt le less))

/-! ## What is paid -/

/-- The path of this output ends with nothing left and this paid. -/
def Pays (pool : ClmmPool) (zeroForOne : Bool) (remaining paid : Nat) (walk : Walk) (value : Nat) :
    Prop :=
  ∀ productive, ∃ final, OutputPath pool zeroForOne ⟨remaining, paid, productive⟩ walk final ∧
    final.remaining = 0 ∧ final.paid = value

theorem pays_nothing (paid : Nat) : Pays pool zeroForOne 0 paid walk paid := by
  intro productive
  exact ⟨_, .stop fun produces => produces.positive rfl, rfl, rfl⟩

section Produces

variable {paid value : Nat} (produces : Produces zeroForOne amount walk)

include produces

theorem pays_leg (covers : pool.legOutput zeroForOne walk ≤ amount)
    (crosses : pool.Crosses zeroForOne walk next)
    (rest : Pays pool zeroForOne (amount - pool.legOutput zeroForOne walk)
      (paid + pool.legCost zeroForOne walk) next value) :
    Pays pool zeroForOne amount paid walk value := by
  intro productive
  obtain ⟨final, path, none, same⟩ := rest _
  exact ⟨final, .leg produces covers crosses path, none, same⟩

/-- A leg that yields just what remains is the last. -/
theorem pays_whole (exact : amount = pool.legOutput zeroForOne walk)
    (crossed : pool.EndsAtTick zeroForOne walk → ∃ next, pool.beyond zeroForOne walk = some next) :
    Pays pool zeroForOne amount paid walk (paid + pool.legCost zeroForOne walk) := by
  by_cases ends : pool.EndsAtTick zeroForOne walk
  · obtain ⟨next, behind⟩ := crossed ends
    refine pays_leg produces exact.ge ⟨ends, behind⟩ ?_
    rw [exact, Nat.sub_self]
    exact pays_nothing _
  · intro productive
    refine ⟨_, .limit produces exact.ge ends, ?_, rfl⟩
    show amount - pool.legOutput zeroForOne walk = 0
    omega

theorem pays_part (less : amount < pool.legOutput zeroForOne walk)
    (passes : pool.Passes zeroForOne walk (pool.partPrice zeroForOne walk amount)) :
    Pays pool zeroForOne amount paid walk (paid + pool.partCost zeroForOne walk amount) := by
  intro productive
  exact ⟨_, .part produces less passes, Nat.sub_self amount, rfl⟩

end Produces

/-- The quote of the loop is what is paid. -/
theorem Sound.quoteExactOut_of_pays (sound : pool.Sound) {value : Nat} (positive : amount ≠ 0)
    (bounded : amount < 2 ^ 255) (pays : Pays pool zeroForOne amount 0 pool.start value) :
    pool.quoteExactOutAmountIn zeroForOne amount = .ok value := by
  obtain ⟨final, path, none, rfl⟩ := pays 0
  obtain ⟨remaining, paid, productive⟩ := final
  cases none
  exact (sound.quoteExactOutAmountIn_iff positive bounded).mpr ⟨productive, path⟩

/-! ## Quotes on the curve -/

/-- A quote inside the segment of a leg. -/
theorem Sound.quoteSegment_inside (sound : pool.Sound)
    (drawn : CurveOf pool zeroForOne .exactOutput curve) (valid : walk.Valid zeroForOne)
    (roomy : Roomy zeroForOne walk start) {specifiedEnd resultEnd : Nat} (above : total < amount)
    (inside : amount ≠ specifiedEnd) (less : amount - total < pool.legOutput zeroForOne walk) :
    curve.quoteSegment (pool.legSegment zeroForOne walk specifiedEnd resultEnd) total start amount =
      .ok (start + pool.partCost zeroForOne walk (amount - total)) := by
  obtain ⟨step, computed, -, -, cost⟩ := sound.outputStep_part valid (by omega) less
  have small := sound.legCost_lt valid
  have le := sound.partCost_le valid (amount - total)
  rw [drawn.quoteSegment_eq_ok above.le]
  refine Or.inr ⟨inside, step, computed, ?_, ?_⟩
  · show start + (step.amountIn + step.feeAmount) < 2 ^ 256
    rw [cost]
    exact roomy.lt (lt_of_le_of_lt le small)
  · show start + _ = start + (step.amountIn + step.feeAmount)
    rw [cost]

theorem Builds.produces (builds : Builds zeroForOne bound total walk) (above : total < amount) :
    Produces zeroForOne (amount - total) walk :=
  ⟨⟨by omega, builds.goes⟩, builds.funded⟩

theorem Roomy.of_le {less more : Nat} (roomy : Roomy zeroForOne walk more) (le : less ≤ more) :
    Roomy zeroForOne walk less := by
  unfold Roomy at *
  omega

variable {result : Nat}

/-- Inside the first segment, a quote on the curve starts from the end of the last one, and the loop
from what has been paid. -/
theorem Sound.inside_first (sound : pool.Sound) (drawn : CurveOf pool zeroForOne .exactOutput curve)
    (path : Tail pool zeroForOne .exactOutput bound total result walk tail)
    (builds : Builds zeroForOne bound total walk) (valid : walk.Valid zeroForOne)
    (roomy : Roomy zeroForOne walk start) (above : total < amount) (below : amount < bound)
    (inside : amount < total + pool.legOutput zeroForOne walk) :
    (∃ segment ∈ tail, amount ≤ segment.specifiedEnd) ∧
      curve.quoteFrom amount total start tail =
        .ok (start + pool.partCost zeroForOne walk (amount - total)) ∧
      Pays pool zeroForOne (amount - total) result walk
        (result + pool.partCost zeroForOne walk (amount - total)) := by
  have positive : amount - total ≠ 0 := by omega
  have less : amount - total < pool.legOutput zeroForOne walk := by omega
  have kept : pool.legOutput zeroForOne walk ≠ 0 := by omega
  have produces := builds.produces above
  cases path with
  | stop stops => exact absurd builds stops
  | leg _ _ crosses _ =>
    refine ⟨⟨_, mem_keepSegment kept, inside.le⟩, ?_,
      pays_part produces less fun _ => ⟨_, crosses.beyond⟩⟩
    refine (curve.quoteFrom_keep_inside rfl above inside.le).trans ?_
    exact sound.quoteSegment_inside drawn valid roomy above inside.ne less
  | limit _ _ elsewhere =>
    refine ⟨⟨_, mem_keepSegment kept, inside.le⟩, ?_, pays_part produces less ?_⟩
    · refine (curve.quoteFrom_keep_inside rfl above inside.le).trans ?_
      exact sound.quoteSegment_inside drawn valid roomy above inside.ne less
    · intro reached
      exact absurd reached (partPrice_ne_boundary valid elsewhere positive less)
  | part _ exceeds computed passes =>
    refine ⟨⟨_, List.mem_singleton.mpr rfl, below.le⟩, ?_, pays_part produces less ?_⟩
    · refine (curve.quoteFrom_last below.le).trans ?_
      exact sound.quoteSegment_inside drawn valid roomy above below.ne less
    · replace exceeds : bound < total + pool.legOutput zeroForOne walk := exceeds
      have exceeds' : bound - total < pool.legOutput zeroForOne walk := by omega
      obtain ⟨step, computed', reached, -, -⟩ := sound.outputStep_part valid (by omega) exceeds'
      cases computed.symm.trans computed'
      rw [reached] at passes
      exact passes.of_le valid positive (by omega) exceeds'

/-- Where a quote on the segments behind a leg starts. -/
theorem start_behind (sum : result = start + missed) :
    result + pool.legCost zeroForOne walk =
      (if pool.legOutput zeroForOne walk = 0 then start else result + pool.legCost zeroForOne walk) +
        pool.missedBehind zeroForOne walk missed := by
  unfold missedBehind
  split <;> omega

/-- Behind the first leg lie only the segments of the tail. -/
theorem exists_behind {specifiedStep : Nat} {segment : PreparedQuoteSegment}
    (specified : segment.specifiedEnd = total + specifiedStep)
    (behind : total + specifiedStep < amount)
    (within : ∃ other ∈ keepSegment specifiedStep segment tail, amount ≤ other.specifiedEnd) :
    ∃ other ∈ tail, amount ≤ other.specifiedEnd := by
  obtain ⟨other, mem, le⟩ := within
  unfold keepSegment at mem
  split at mem
  · rcases List.mem_cons.mp mem with rfl | mem
    · omega
    · exact ⟨other, mem, le⟩
  · exact ⟨other, mem, le⟩

/-- Nothing is missed where the amount, if it is below the bound, ends inside a leg. -/
def MissesNothing (pool : ClmmPool) (zeroForOne : Bool) (bound amount total missed : Nat)
    (walk : Walk) : Prop :=
  amount < bound → ∀ part left last,
    EndsInside pool zeroForOne (amount - total) missed walk part left last → left = 0

section Free

variable (sound : pool.Sound) (drawn : CurveOf pool zeroForOne .exactOutput curve)
  (path : Tail pool zeroForOne .exactOutput bound total result walk tail)
  (sum : result = start + missed)
  (free : MissesNothing pool zeroForOne bound amount total missed walk)
  (valid : walk.Valid zeroForOne) (roomy : Roomy zeroForOne walk result) (above : total < amount)

include sound drawn path sum free valid roomy above

theorem Sound.agrees_inside (builds : Builds zeroForOne bound total walk) (below : amount < bound)
    (less : amount < total + pool.legOutput zeroForOne walk) :
    ∃ value, curve.quoteFrom amount total start tail = .ok value ∧
      Pays pool zeroForOne (amount - total) result walk value := by
  have none : missed = 0 := free below _ _ _ (.here (builds.produces above) (by omega))
  obtain ⟨-, quoted, pays⟩ := sound.inside_first drawn path builds valid
    (roomy.of_le (show start ≤ result by omega)) above below less
  have same : start = result := by omega
  rw [same] at quoted
  exact ⟨_, same ▸ quoted, pays⟩

/-- Where nothing is missed, the segments from here on quote what the loop pays. -/
theorem Sound.agrees_of_not_missed (within : ∃ segment ∈ tail, amount ≤ segment.specifiedEnd) :
    ∃ value, curve.quoteFrom amount total start tail = .ok value ∧
      Pays pool zeroForOne (amount - total) result walk value := by
  induction path generalizing start missed with
  | stop stops =>
    obtain ⟨segment, mem, -⟩ := within
    exact absurd mem List.not_mem_nil
  | @leg total result walk next tail builds covers crosses rest ih =>
    replace covers : total + pool.legOutput zeroForOne walk ≤ bound := covers
    rcases Nat.lt_trichotomy amount (total + pool.legOutput zeroForOne walk) with less | same | behind
    · exact sound.agrees_inside drawn (.leg builds covers crosses rest) sum free valid roomy above
        builds (by omega) less
    · refine ⟨result + pool.legCost zeroForOne walk, ?_, ?_⟩
      · refine (curve.quoteFrom_keep_inside rfl above same.le).trans ?_
        exact (drawn.quoteSegment_eq_ok above.le).mpr (Or.inl ⟨same, rfl⟩)
      · exact pays_whole (builds.produces above) (by omega) fun _ => ⟨next, crosses.beyond⟩
    · have room := roomy.beyond sound valid (sound.legCost_lt valid) crosses
      have freeBehind : MissesNothing pool zeroForOne bound amount
          (total + pool.legOutput zeroForOne walk) (pool.missedBehind zeroForOne walk missed) next := by
        intro below part left last inside
        rw [← Nat.sub_sub] at inside
        exact free below part left last
          (.leg (builds.produces above) (by omega) crosses inside)
      obtain ⟨value, quoted, pays⟩ := ih (start_behind sum) freeBehind (crosses.valid valid) room
        behind (exists_behind rfl behind within)
      refine ⟨value, (curve.quoteFrom_keep start rfl behind).trans quoted, ?_⟩
      refine pays_leg (builds.produces above) (by omega) crosses ?_
      rw [Nat.sub_sub]
      exact pays
  | @limit total result walk builds covers elsewhere =>
    replace covers : total + pool.legOutput zeroForOne walk ≤ bound := covers
    rcases Nat.lt_trichotomy amount (total + pool.legOutput zeroForOne walk) with less | same | behind
    · exact sound.agrees_inside drawn (.limit builds covers elsewhere) sum free valid roomy above builds
        (by omega) less
    · refine ⟨result + pool.legCost zeroForOne walk, ?_, ?_⟩
      · refine (curve.quoteFrom_keep_inside rfl above same.le).trans ?_
        exact (drawn.quoteSegment_eq_ok above.le).mpr (Or.inl ⟨same, rfl⟩)
      · exact pays_whole (builds.produces above) (by omega)
          fun ends => absurd ends elsewhere
    · obtain ⟨segment, mem, -⟩ := exists_behind rfl behind within
      exact absurd mem List.not_mem_nil
  | @part total result walk step builds exceeds computed passes =>
    replace exceeds : bound < total + pool.legOutput zeroForOne walk := exceeds
    obtain ⟨segment, mem, le⟩ := within
    rw [List.mem_singleton.mp mem] at le
    replace le : amount ≤ bound := le
    rcases Nat.lt_or_eq_of_le le with less | same
    · exact sound.agrees_inside drawn (.part builds exceeds computed passes) sum free valid roomy above
        builds less (by omega)
    · have exceeds' : bound - total < pool.legOutput zeroForOne walk := by omega
      obtain ⟨step', computed', reached, -, cost⟩ := sound.outputStep_part valid (by omega) exceeds'
      cases computed.symm.trans computed'
      refine ⟨result + (step.amountIn + step.feeAmount), ?_, ?_⟩
      · refine (curve.quoteFrom_last same.le).trans ?_
        exact (drawn.quoteSegment_eq_ok above.le).mpr (Or.inl ⟨same, rfl⟩)
      · rw [reached] at passes
        rw [cost, same]
        exact pays_part (builds.produces builds.below) exceeds' passes

end Free

/-- An amount that ends behind a missed cost is one of those that a bound above it excludes. -/
theorem EndsInside.misses {remaining part left : Nat} {last : Walk}
    (inside : EndsInside pool zeroForOne remaining missed walk part left last)
    (below : total + remaining < bound) (costly : left ≠ 0) :
    MissesBelow pool zeroForOne bound total missed walk := by
  induction inside generalizing total with
  | here produces less =>
    have positive := produces.positive
    exact .here ⟨by omega, produces.goes, produces.funded⟩ costly (by omega) (by omega)
  | leg produces covers crosses rest ih =>
    have positive := produces.positive
    refine .leg ⟨by omega, produces.goes, produces.funded⟩ (by omega) crosses ?_
    exact ih (by omega) costly

theorem missesNothing_of_not_missesBelow (free : ¬ MissesBelow pool zeroForOne bound 0 0 walk) :
    MissesNothing pool zeroForOne bound amount 0 0 walk := by
  intro below part left last inside
  by_contra costly
  exact free (inside.misses (by omega) costly)

/-- Where a cost is missed, the first unit behind it has another quote on the curve. -/
theorem Sound.differs_of_missed (sound : pool.Sound)
    (drawn : CurveOf pool zeroForOne .exactOutput curve)
    (misses : MissesBelow pool zeroForOne bound total missed walk)
    (path : Tail pool zeroForOne .exactOutput bound total result walk tail)
    (sum : result = start + missed) (valid : walk.Valid zeroForOne)
    (roomy : Roomy zeroForOne walk result) :
    ∃ amount value other, total < amount ∧ (∃ segment ∈ tail, amount ≤ segment.specifiedEnd) ∧
      curve.quoteFrom amount total start tail = .ok other ∧
      Pays pool zeroForOne (amount - total) result walk value ∧ other ≠ value := by
  induction misses generalizing start result tail with
  | @here total missed walk builds costly inside room =>
    obtain ⟨within, quoted, pays⟩ := sound.inside_first drawn path builds valid
      (roomy.of_le (show start ≤ result by omega)) (Nat.lt_succ_self total) (by omega) (by omega)
    exact ⟨total + 1, _, _, Nat.lt_succ_self total, within, quoted, pays, by omega⟩
  | @leg total missed walk next builds covers crosses rest ih =>
    obtain ⟨next', tail, crosses', rfl, path⟩ := path.leg_inv builds covers crosses.ends
    cases crosses.beyond.symm.trans crosses'.beyond
    have room := roomy.beyond sound valid (sound.legCost_lt valid) crosses
    obtain ⟨amount, value, other, behind, ⟨segment, mem, le⟩, quoted, pays, ne⟩ :=
      ih path (start_behind sum) (crosses.valid valid) room
    refine ⟨amount, value, other, by omega, ⟨segment, ?_, le⟩,
      (curve.quoteFrom_keep start rfl behind).trans quoted, ?_, ne⟩
    · unfold keepSegment
      split
      · exact List.mem_cons_of_mem _ mem
      · exact mem
    · refine pays_leg (builds.produces (by omega)) (by omega) crosses ?_
      rw [Nat.sub_sub]
      exact pays

/-- Every amount up to the capacity of a prepared exact-output curve has one quote on the curve and in
the loop, exactly if no leg that yields two units or more follows legs that cost something and yield
nothing. -/
theorem output_curve_agrees_iff (sound : pool.Sound) {previous : Option PreparedQuoteCurve}
    (built : pool.prepareQuoteCurveReusing zeroForOne .exactOutput bound previous = .ok curve) :
    (∀ amount, 0 < amount → amount ≤ curve.specifiedCapacity →
        ∃ value, curve.quote amount = .ok value ∧
          pool.quoteExactOutAmountIn zeroForOne amount = .ok value) ↔
      ¬ MissesBelow pool zeroForOne bound 0 0 pool.start := by
  obtain ⟨-, bounded, drawn, path⟩ := sound.built built
  have valid : pool.start.Valid zeroForOne := sound.valid_start
  constructor
  · intro agrees misses
    obtain ⟨amount, value, other, above, within, quoted, pays, ne⟩ :=
      sound.differs_of_missed drawn misses path rfl valid sound.roomy_start
    obtain ⟨segment, mem, le⟩ := within
    have small : amount < 2 ^ 255 := (le.trans (path.end_le segment mem)).trans_lt bounded
    obtain ⟨both, onCurve, iterated⟩ :=
      agrees amount above ((path.le_capacity_iff above.ne').mpr ⟨segment, mem, le⟩)
    rw [curve.quote_eq above.ne' small, quoted] at onCurve
    rw [sound.quoteExactOut_of_pays above.ne' small pays] at iterated
    cases onCurve
    cases iterated
    exact ne rfl
  · intro free amount above within
    obtain ⟨segment, mem, le⟩ := (path.le_capacity_iff above.ne').mp within
    have small : amount < 2 ^ 255 := (le.trans (path.end_le segment mem)).trans_lt bounded
    obtain ⟨value, quoted, pays⟩ := sound.agrees_of_not_missed drawn path rfl
      (missesNothing_of_not_missesBelow free) valid sound.roomy_start above ⟨segment, mem, le⟩
    refine ⟨value, ?_, sound.quoteExactOut_of_pays above.ne' small pays⟩
    rw [curve.quote_eq above.ne' small]
    exact quoted

end Output

/-- A pool one step of the price above a word boundary. -/
def aboveBoundary : ClmmPool :=
  fresh 3000 60 (2 ^ 96 + 1) 0 (10 ^ 18)

theorem aboveBoundary_reachable : aboveBoundary.Reachable :=
  .fresh (by norm_num) rfl

/-- Its curve away from the boundary. -/
def curveUp : PreparedQuoteCurve :=
  ⟨.exactOutput, 3000,
    [⟨1000, 1005, 2 ^ 96 + 1, 170254363637599206452736906702, 10 ^ 18⟩]⟩

theorem quote_away_from_the_boundary_agrees :
    ∃ value, curveUp.quote 500 = .ok value ∧
      aboveBoundary.quoteExactOutAmountIn false 500 = .ok value := by
  have built : aboveBoundary.prepareExactOutputCurveBounded false 1000 = .ok curveUp := by
    decide +kernel
  have long : ¬ 0 + aboveBoundary.legOutput false aboveBoundary.start ≤ 1000 := by decide +kernel
  have free : ¬ MissesBelow aboveBoundary false 1000 0 0 aboveBoundary.start := by
    intro misses
    cases misses with
    | here _ costly => exact costly rfl
    | leg _ covers => exact long covers
  have agrees := (output_curve_agrees_iff aboveBoundary_reachable.sound built).mpr free
  exact agrees 500 (by norm_num) (by decide)

/-- Its curve across the boundary.  The step to the boundary costs two units and yields none. -/
def curveDown : PreparedQuoteCurve :=
  ⟨.exactOutput, 3000, [⟨1000, 1007, 2 ^ 96, 36758526794156967312715787618, 10 ^ 18⟩]⟩

/-- Inside the only segment, the quote on the curve lacks the two units. -/
theorem quote_across_the_boundary_lacks_a_cost :
    aboveBoundary.Reachable ∧ aboveBoundary.Coherent ∧
      aboveBoundary.prepareExactOutputCurveBounded true 1000 = .ok curveDown ∧
      curveDown.quote 500 = .ok 503 ∧ aboveBoundary.quoteExactOutAmountIn true 500 = .ok 505 :=
  ⟨aboveBoundary_reachable, by decide +kernel, by decide +kernel, by decide +kernel,
    by decide +kernel⟩

end ClmmPool

end PolyBot.Dex
