import PolyBot.Dex.Backing
import PolyBot.Dex.RoundTrip

/-!
# What an exact output costs, delivered

The quote of an exact output says what it costs, and the quote of that input says what comes out.
Both walk the same legs, so the whole legs agree; on the last one the input may even reach the end of
a leg on which the output stopped, and cross the tick there.

* `ClmmPool.Sound.delivers`: a path of an output is followed by a path of its cost.
* `ClmmPool.exact_output_is_deliverable`: the two quotes.
* `ClmmPool.output_not_delivered`: where the products of a price do not fit into a word, the library
  rounds it further, and the input falls short.
-/

namespace PolyBot.Dex

open SwapMath

namespace ClmmPool

variable {pool : ClmmPool} {zeroForOne : Bool} {walk next : Walk} {totals final : OutputTotals}

/-- What part of a leg costs yields at least that part. -/
theorem Sound.delivers_part (sound : pool.Sound) (crossable : pool.Crossable)
    (valid : walk.Valid zeroForOne) (backed : walk.Backed pool) {amount : Nat} (out : Nat)
    (produces : Produces zeroForOne amount walk) (less : amount < pool.legOutput zeroForOne walk)
    (fits : pool.PartFits zeroForOne walk amount) :
    ∃ result, InputPath pool zeroForOne (pool.partCost zeroForOne walk amount) out walk result ∧
      out + amount ≤ result := by
  have costs : pool.partCost zeroForOne walk amount ≠ 0 :=
    partCost_ne_zero valid produces.positive less
  obtain ⟨next, crossed⟩ := sound.crosses crossable valid backed
  rcases (sound.partCost_le valid amount).lt_or_eq with partly | whole
  · have bounded : pool.partCost zeroForOne walk amount < 2 ^ 255 :=
      partly.trans ((sound.legCost_lt valid).trans (by norm_num))
    obtain ⟨step, computed, -⟩ := sound.inputStep_part valid bounded partly
    have yields : amount ≤ step.amountOut :=
      le_amountOut_of_cost (valid.priced pool) sound.fee_lt less partly fits computed
    exact ⟨_, .part ⟨costs, produces.goes⟩ partly computed fun _ => ⟨next, crossed⟩, by omega⟩
  · -- the rounded cost of the part is that of the whole leg
    by_cases ends : pool.EndsAtTick zeroForOne walk
    · refine ⟨out + pool.legOutput zeroForOne walk,
        .leg ⟨costs, produces.goes⟩ whole.ge ⟨ends, crossed⟩ ?_, by omega⟩
      rw [whole, Nat.sub_self]
      exact .spent
    · exact ⟨_, .limit ⟨costs, produces.goes⟩ whole.symm ends, by omega⟩

/-- What a path of exact output pays is an input whose path yields the output. -/
theorem Sound.delivers (sound : pool.Sound) (crossable : pool.Crossable)
    (path : OutputPath pool zeroForOne totals walk final) {missed : Nat}
    (valid : walk.Valid zeroForOne) (backed : walk.Backed pool) (positive : totals.remaining ≠ 0)
    (none : final.remaining = 0)
    (fits : ∀ part left last,
      EndsInside pool zeroForOne totals.remaining missed walk part left last →
      pool.PartFits zeroForOne last part) (out : Nat) :
    ∃ result, InputPath pool zeroForOne (final.paid - totals.paid) out walk result ∧
      out + totals.remaining ≤ result := by
  induction path generalizing missed out with
  | stop => exact absurd none positive
  | @leg totals final walk next produces covers crosses rest ih =>
    have paid : totals.paid + pool.legCost zeroForOne walk ≤ final.paid := rest.paid_le
    have spends : final.paid - totals.paid ≠ 0 := by
      have grown := (OutputPath.leg produces covers crosses rest).paid_lt valid positive none
      omega
    have split : final.paid - totals.paid - pool.legCost zeroForOne walk =
        final.paid - (totals.paid + pool.legCost zeroForOne walk) := Nat.sub_sub ..
    suffices behind : ∃ result, InputPath pool zeroForOne
        (final.paid - (totals.paid + pool.legCost zeroForOne walk))
        (out + pool.legOutput zeroForOne walk) next result ∧ out + totals.remaining ≤ result by
      obtain ⟨result, behind, enough⟩ := behind
      exact ⟨result, .leg ⟨spends, produces.goes⟩ (by omega) crosses (split ▸ behind), enough⟩
    by_cases last : totals.remaining = pool.legOutput zeroForOne walk
    · cases rest.done (Nat.sub_eq_zero_of_le last.le)
      refine ⟨out + pool.legOutput zeroForOne walk, ?_, by omega⟩
      change InputPath pool zeroForOne (totals.paid + pool.legCost zeroForOne walk -
        (totals.paid + pool.legCost zeroForOne walk)) _ _ _
      rw [Nat.sub_self]
      exact .spent
    · have positive' : totals.remaining - pool.legOutput zeroForOne walk ≠ 0 := by omega
      obtain ⟨result, behind, enough⟩ := ih (crosses.valid valid)
        (sound.backed_behind valid backed (behind_of_beyond crosses.beyond)) positive' none
        (fun part left last inside => fits part left last (.leg produces covers crosses inside))
        (out + pool.legOutput zeroForOne walk)
      refine ⟨result, behind, ?_⟩
      change out + pool.legOutput zeroForOne walk +
        (totals.remaining - pool.legOutput zeroForOne walk) ≤ result at enough
      omega
  | @limit totals walk produces covers elsewhere =>
    change totals.remaining - pool.legOutput zeroForOne walk = 0 at none
    have costs : pool.legCost zeroForOne walk ≠ 0 := legCost_ne_zero valid (by omega)
    refine ⟨out + pool.legOutput zeroForOne walk, ?_, by omega⟩
    change InputPath pool zeroForOne (totals.paid + pool.legCost zeroForOne walk - totals.paid) _ _ _
    rw [Nat.add_sub_cancel_left]
    exact .limit ⟨costs, produces.goes⟩ rfl elsewhere
  | @part totals walk produces less passes =>
    change ∃ result, InputPath pool zeroForOne
      (totals.paid + pool.partCost zeroForOne walk totals.remaining - totals.paid) _ _ _ ∧ _
    rw [Nat.add_sub_cancel_left]
    exact sound.delivers_part crossable valid backed out produces less
      (fits _ _ _ (.here produces less))

theorem rangePool_crossable : rangePool.Crossable := by
  have keys : rangePool.ticks.keys = [-60, 60] := by decide +kernel
  have lower : (rangePool.position (-60)).net = 1000 := by decide +kernel
  have upper : (rangePool.position 60).net = -1000 := by decide +kernel
  constructor
  · intro tick
    unfold netUpTo
    rw [keys]
    by_cases low : -60 ≤ tick <;> by_cases high : 60 ≤ tick <;>
      simp [low, high, lower, upper]
    omega
  · intro tick
    by_cases held : tick ∈ rangePool.ticks.keys
    · rw [keys] at held
      rcases List.mem_pair.mp held with rfl | rfl
      · rw [lower]
        norm_num [FitsInt]
      · rw [upper]
        norm_num [FitsInt]
    · rw [position_of_not_mem fun mem => held (Std.TreeMap.mem_keys.mpr mem)]
      norm_num [FitsInt]

/-! ## The two quotes -/

/-- The input that an exact output costs can be quoted, and yields at least that output: over a map
whose sums are liquidities, where the products on the last leg fit into a word. -/
theorem exact_output_is_deliverable (sound : pool.Sound) (backed : pool.Backed)
    (crossable : pool.Crossable) {amountOut amountIn : Nat}
    (quoted : pool.quoteExactOutAmountIn zeroForOne amountOut = .ok amountIn)
    (positive : 0 < amountIn) (bounded : amountIn < 2 ^ 255)
    (fits : ∀ part left last, EndsInside pool zeroForOne amountOut 0 pool.start part left last →
      pool.PartFits zeroForOne last part) :
    ∃ delivered, pool.quoteExactInAmountOut zeroForOne amountIn = .ok delivered ∧
      amountOut ≤ delivered := by
  have asked := quoted
  simp only [quoteExactOutAmountIn, quoteExactOutAmountInImpl, bind_eq_ok, require_eq_ok,
    exists_const] at asked
  obtain ⟨some, small, -⟩ := asked
  obtain ⟨productive, path⟩ := (sound.quoteExactOutAmountIn_iff some small).mp quoted
  obtain ⟨delivered, yields, enough⟩ := sound.delivers crossable path sound.valid_start backed some
    rfl fits 0
  refine ⟨delivered, ?_, by simpa using enough⟩
  rw [sound.quoteExactInAmountOut_iff positive.ne' bounded]
  exact yields

theorem rangePool_delivers :
    rangePool.quoteExactOutAmountIn false 1 = .ok 3 ∧
      ∃ delivered, rangePool.quoteExactInAmountOut false 3 = .ok delivered ∧ 1 ≤ delivered := by
  have quoted : rangePool.quoteExactOutAmountIn false 1 = .ok 3 := by decide +kernel
  refine ⟨quoted, exact_output_is_deliverable rangePool_reachable.sound (by decide +kernel)
    rangePool_crossable quoted (by decide) (by decide) ?_⟩
  intro part left last inside
  cases inside with
  | here produces less =>
    intro down
    revert down
    decide +kernel
  | leg produces covers => exact absurd covers (by decide +kernel)

/-- A position over almost the whole range, with the head far from the middle. -/
def wholeSidePool : ClmmPool :=
  ((fresh 500 10000 18611883644907511909590774894315720731532604461 800000 (2 ^ 127 - 1)).after
    (.setTick (-880000) (2 ^ 127 - 1) (2 ^ 127 - 1))).after
    (.setTick 880000 (2 ^ 127 - 1) (1 - 2 ^ 127))

theorem wholeSidePool_reachable : wholeSidePool.Reachable :=
  .after (.after (.fresh (by norm_num) (by rfl)) trivial) trivial

/-- A map that takes out more at a tick than the ticks below it have brought in. -/
def overdrawnPool : ClmmPool :=
  ((fresh 3000 60 7425001144658883 (-600000) 1000).after (.setTick (-600060) 1000 1000)).after
    (.setTick (-599940) 2000 (-2000))

theorem overdrawnPool_reachable : overdrawnPool.Reachable :=
  .after (.after (.fresh (by norm_num) (by rfl)) trivial) trivial

/-- The cost of an output is quoted, and the quote of the cost falls short of it, or fails at a tick
that the output did not reach. -/
theorem output_not_delivered :
    (wholeSidePool.Reachable ∧ wholeSidePool.Coherent ∧ wholeSidePool.Backed ∧
      wholeSidePool.quoteExactOutAmountIn true
          39968715781264549386984565479794244696487020879390929713 =
        .ok 6224518508778125975091701366320 ∧
      wholeSidePool.quoteExactInAmountOut true 6224518508778125975091701366320 =
        .ok 39968715781264549386984565479794244696487020877243446065) ∧
    overdrawnPool.Reachable ∧ overdrawnPool.Coherent ∧ overdrawnPool.Backed ∧
      overdrawnPool.quoteExactOutAmountIn false 5 = .ok 2 ∧
      overdrawnPool.quoteExactInAmountOut false 2 =
        .error (.rejected "failed to cross initialized tick") := by
  refine ⟨⟨wholeSidePool_reachable, ?_, ?_, ?_, ?_⟩, overdrawnPool_reachable, ?_, ?_, ?_, ?_⟩
  all_goals decide +kernel

end ClmmPool

end PolyBot.Dex
