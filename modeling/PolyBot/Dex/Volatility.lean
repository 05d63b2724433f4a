import PolyBot.Dex.FeeProjection
import Mathlib.Algebra.BigOperators.Intervals
import Mathlib.Tactic.Ring
import Mathlib.Tactic.Positivity

/-!
# Volatility over an interval

Between two timepoints the tick and its average move on straight lines, so that the distance of the
one from the other is affine in the time.  The volatility of the interval is the sum of the squares
of that distance, taken second by second; the pool computes it from a closed form, in one division.

* `sum_sq_affine`: the closed form of a sum of squares of an affine function.
* `volatilityOnRange_eq_sum`: the checked computation is that sum, unless it overflows.
-/

namespace PolyBot.Dex

open Finset

/-- Six times a sum of squares over `1, …, n` of an affine function. -/
theorem sum_sq_affine (k b : Int) (n : Nat) :
    6 * ∑ i ∈ Icc 1 n, (k * i + b) ^ 2 =
      k * k * (n * (n + 1) * (2 * n + 1)) + b * k * (n * (n + 1)) * 6 + b * b * n * 6 := by
  induction n with
  | zero => simp
  | succ n ih =>
    rw [sum_Icc_succ_top (Nat.le_add_left 1 n), mul_add, ih]
    push_cast
    ring

theorem sum_sq_affine_nonneg (k b : Int) (n : Nat) : 0 ≤ ∑ i ∈ Icc 1 n, (k * i + b) ^ 2 :=
  sum_nonneg fun i _ => sq_nonneg (k * i + b)

/-- How fast the distance of the tick from its average grows over an interval, in units of one part
of the interval. -/
def distanceSlope (tick0 tick1 averageTick0 averageTick1 : Int) : Int :=
  (tick1 - tick0) - (averageTick1 - averageTick0)

/-- The distance at the start of an interval, in the same units. -/
def distanceStart (delta : Nat) (tick0 averageTick0 : Int) : Int :=
  (tick0 - averageTick0) * delta

/-- The sum of squares of the distance over an interval, in whole units and rounded down. -/
def volatilitySum (delta : Nat) (tick0 tick1 averageTick0 averageTick1 : Int) : Int :=
  (∑ i ∈ Icc 1 delta, (distanceSlope tick0 tick1 averageTick0 averageTick1 * i +
    distanceStart delta tick0 averageTick0) ^ 2) / (delta : Int) ^ 2

/-- The ways in which `volatilityOnRange` reports that a product or a sum does not fit. -/
def volatilityOverflows : List String :=
  ["Camelot volatility B overflow", "Camelot volatility square sequence overflow",
    "Camelot volatility sequence overflow", "Camelot volatility numerator overflow",
    "Camelot volatility denominator overflow"]

/-- A quotient of the closed form is that of the sum: both sides of the division carry the factor
six. -/
theorem closedForm_tdiv (k b : Int) (delta : Nat) :
    (k * k * (delta * (delta + 1) * (2 * delta + 1)) + b * k * (delta * (delta + 1)) * 6 +
        b * b * delta * 6).tdiv (6 * delta * delta) =
      (∑ i ∈ Icc 1 delta, (k * i + b) ^ 2) / (delta : Int) ^ 2 := by
  have nonneg : 0 ≤ 6 * ∑ i ∈ Icc 1 delta, (k * i + b) ^ 2 :=
    mul_nonneg (by decide) (sum_sq_affine_nonneg k b delta)
  have square : (6 * delta * delta : Int) = 6 * (delta : Int) ^ 2 := by ring
  rw [← sum_sq_affine, Int.tdiv_eq_ediv_of_nonneg nonneg, square,
    Int.mul_ediv_mul_of_pos _ _ (by decide)]

/-- The checked products of the numerator, read back. -/
theorem numerator_eq {k b dt sumSquares sumSequence numerator : Int}
    (computed : volatilityNumerator k b dt sumSquares sumSequence = some numerator) :
    numerator = k * k * sumSquares + b * k * sumSequence * 6 + b * b * dt * 6 := by
  simp only [volatilityNumerator, Option.bind_eq_bind, Option.bind_eq_some_iff, checkedInt_eq_some] at computed
  obtain ⟨_, ⟨-, rfl⟩, _, ⟨-, rfl⟩, _, ⟨-, rfl⟩, _, ⟨-, rfl⟩, _, ⟨-, rfl⟩, _, ⟨-, rfl⟩, _, ⟨-, rfl⟩,
    _, ⟨-, rfl⟩, _, ⟨-, rfl⟩, -, rfl⟩ := computed
  rfl

/-- A run of the computation ends with the sum or with one of the overflows. -/
theorem volatilityOnRange_spec (delta : Nat) (tick0 tick1 averageTick0 averageTick1 : Int) :
    OkUnless (· ∈ volatilityOverflows)
      (fun volatility : Nat =>
        (volatility : Int) = volatilitySum delta tick0 tick1 averageTick0 averageTick1)
      (volatilityOnRange delta tick0 tick1 averageTick0 averageTick1) := by
  unfold volatilityOnRange
  simp only [okUnless_bind]
  rw [okUnless_orError_iff]
  refine ⟨fun _ => by simp [volatilityOverflows], fun b started => ?_⟩
  rw [okUnless_orError_iff]
  refine ⟨fun _ => by simp [volatilityOverflows], fun sumSquares squares => ?_⟩
  rw [okUnless_orError_iff]
  refine ⟨fun _ => by simp [volatilityOverflows], fun sumSequence sequence => ?_⟩
  rw [okUnless_orError_iff]
  refine ⟨fun _ => by simp [volatilityOverflows], fun numerator computed => ?_⟩
  rw [okUnless_orError_iff]
  refine ⟨fun _ => by simp [volatilityOverflows], fun denominator parts => ?_⟩
  obtain ⟨-, rfl⟩ := checkedInt_eq_some.mp started
  obtain ⟨-, rfl⟩ := checkedInt_eq_some.mp sequence
  simp only [Option.bind_eq_some_iff, checkedInt_eq_some] at squares parts
  obtain ⟨_, ⟨-, rfl⟩, -, rfl⟩ := squares
  obtain ⟨_, ⟨-, rfl⟩, -, rfl⟩ := parts
  have closed := numerator_eq computed
  have sum := sum_sq_affine (distanceSlope tick0 tick1 averageTick0 averageTick1)
    (distanceStart delta tick0 averageTick0) delta
  have nonneg := sum_sq_affine_nonneg (distanceSlope tick0 tick1 averageTick0 averageTick1)
    (distanceStart delta tick0 averageTick0) delta
  -- the numerator is six times a sum of squares, so the sign check cannot fail
  have positive : 0 ≤ numerator := by
    rw [closed]
    unfold distanceSlope distanceStart at sum nonneg
    linarith
  refine okUnless_require positive ?_
  rw [okUnless_pure, Int.toNat_of_nonneg (Int.tdiv_nonneg positive (by positivity)), closed]
  exact closedForm_tdiv _ _ delta

/-- Over an interval of at least one second the computation overflows, or returns the sum of squares
divided by the square of the interval and rounded down.  The check for a negative sum never fires. -/
theorem volatilityOnRange_eq_sum (delta : Nat) (interval : 1 ≤ delta)
    (tick0 tick1 averageTick0 averageTick1 : Int) :
    ((∃ overflow ∈ volatilityOverflows,
        volatilityOnRange delta tick0 tick1 averageTick0 averageTick1 = .error overflow) ∨
      ∃ volatility : Nat,
        volatilityOnRange delta tick0 tick1 averageTick0 averageTick1 = .ok volatility ∧
        (volatility : Int) * (delta : Int) ^ 2 ≤
          ∑ i ∈ Icc 1 delta, (((tick1 - tick0) - (averageTick1 - averageTick0)) * i +
            (tick0 - averageTick0) * delta) ^ 2 ∧
        ∑ i ∈ Icc 1 delta, (((tick1 - tick0) - (averageTick1 - averageTick0)) * i +
            (tick0 - averageTick0) * delta) ^ 2 <
          ((volatility : Int) + 1) * (delta : Int) ^ 2) ∧
    volatilityOnRange delta tick0 tick1 averageTick0 averageTick1 ≠
      .error "Camelot volatility is negative" := by
  have spec := volatilityOnRange_spec delta tick0 tick1 averageTick0 averageTick1
  have square : (0 : Int) < (delta : Int) ^ 2 := by positivity
  rcases computed : volatilityOnRange delta tick0 tick1 averageTick0 averageTick1 with
    failure | volatility <;> rw [computed] at spec
  · refine ⟨Or.inl ⟨failure, spec, rfl⟩, ?_⟩
    rintro ⟨⟩
    simp [OkUnless, volatilityOverflows] at spec
  · refine ⟨Or.inr ⟨volatility, rfl, ?_⟩, by simp⟩
    have floor : (volatility : Int) = volatilitySum delta tick0 tick1 averageTick0 averageTick1 :=
      spec
    rw [floor]
    exact ⟨Int.ediv_mul_le _ square.ne', Int.lt_ediv_add_one_mul_self _ square⟩

/-- A minute in which the tick rises from 10 to 40 above its average of the start. -/
theorem volatilityOnRange_one_minute :
    volatilityOnRange 60 110 145 100 105 = .ok 42752 ∧
      ((42752 : Nat) : Int) * ((60 : Nat) : Int) ^ 2 ≤
        ∑ i ∈ Icc (1 : Nat) 60, ((((145 : Int) - 110) - (105 - 100)) * i + (110 - 100) * (60 : Nat)) ^ 2 := by
  have computed : volatilityOnRange 60 110 145 100 105 = .ok 42752 := by decide +kernel
  obtain ⟨overflows | ⟨volatility, returned, lower, -⟩, -⟩ :=
    volatilityOnRange_eq_sum 60 (by decide) 110 145 100 105
  · simp [computed] at overflows
  · cases computed.symm.trans returned
    exact ⟨computed, lower⟩

end PolyBot.Dex
