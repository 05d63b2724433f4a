import Mathlib.Algebra.Order.BigOperators.Group.Finset
import PolyBot.Dex.AdaptiveFee

/-!
# Bounds of the adaptive fee

In exact arithmetic a sigmoid divides `alpha` in the ratio of two weights: `gamma ^ 8` and a series
that grows with the distance to `beta`.  Which of the two is the share and which the rest is the only
difference between the sides of `beta`, so that one lemma about shares gives monotony on both sides
and across the seam.

* `sigmoid_eq`: the deployed sigmoid is the exact one; nothing wraps and no check fails.
* `sigma_mono`: it grows with its argument and with `alpha`.
* `adaptive_fee_total_bounded_monotone`: hence so does the fee.
-/

namespace PolyBot.Dex

open Finset (range)

variable {x y gamma alpha bound beta : Nat}

/-! ## The series -/

/-- The first terms of `gamma ^ 8 * exp (x / gamma)`, each rounded down. -/
def series (terms x gamma : Nat) : Nat :=
  ∑ k ∈ range terms, x ^ k * gamma ^ (8 - k) / k.factorial

theorem series_mono (le : x ≤ y) (terms gamma : Nat) : series terms x gamma ≤ series terms y gamma :=
  Finset.sum_le_sum fun k _ =>
    Nat.div_le_div_right (Nat.mul_le_mul_right _ (Nat.pow_le_pow_left le k))

theorem series_one (x gamma : Nat) : series 1 x gamma = gamma ^ 8 := by
  simp [series]

theorem le_series (x gamma : Nat) : gamma ^ 8 ≤ series 9 x gamma := by
  rw [← series_one x]
  exact Finset.sum_le_sum_of_subset (Finset.range_subset_range.mpr (by decide))

section Fits

variable (x_lt : x < 2 ^ 19) (gamma_lt : gamma < 2 ^ 19)

include x_lt gamma_lt

theorem power_le {k j : Nat} (degree : k + j ≤ 8) : x ^ k * gamma ^ j ≤ 2 ^ 152 :=
  calc x ^ k * gamma ^ j ≤ (2 ^ 19) ^ k * (2 ^ 19) ^ j :=
        Nat.mul_le_mul (Nat.pow_le_pow_left x_lt.le k) (Nat.pow_le_pow_left gamma_lt.le j)
    _ = (2 ^ 19) ^ (k + j) := (Nat.pow_add _ _ _).symm
    _ ≤ (2 ^ 19) ^ 8 := Nat.pow_le_pow_right (by norm_num) degree
    _ = 2 ^ 152 := by norm_num

theorem series_lt {terms : Nat} (few : terms ≤ 9) : series terms x gamma < 2 ^ 156 := by
  have each : series terms x gamma ≤ (range terms).card • 2 ^ 152 := by
    refine Finset.sum_le_card_nsmul _ _ _ fun k mem => (Nat.div_le_self _ _).trans ?_
    have := Finset.mem_range.mp mem
    exact power_le x_lt gamma_lt (by omega)
  rw [Finset.card_range] at each
  exact each.trans_lt (lt_of_le_of_lt (Nat.mul_le_mul_right _ few) (by norm_num))

/-- A round of the series adds the next term and moves both powers on. -/
theorem expTerm_eq (positive : 0 < gamma) {k : Nat} (degree : k ≤ 5) :
    expTerm x gamma (x ^ (k + 1), gamma ^ (8 - k), series (k + 1) x gamma) (k + 1).factorial =
      .ok (x ^ (k + 2), gamma ^ (8 - (k + 1)), series (k + 2) x gamma) := by
  have lowered : gamma ^ (8 - k) / gamma = gamma ^ (8 - (k + 1)) := by
    rw [show 8 - k = 8 - (k + 1) + 1 by omega, Nat.pow_succ, Nat.mul_div_cancel _ positive]
  have term := power_le x_lt gamma_lt (show k + 1 + (8 - (k + 1)) ≤ 8 by omega)
  have power := power_le x_lt gamma_lt (show k + 2 + 0 ≤ 8 by omega)
  rw [Nat.pow_zero, Nat.mul_one] at power
  have multiplied : checkedMul 256 (x ^ (k + 1)) (gamma ^ (8 - (k + 1))) =
      some (x ^ (k + 1) * gamma ^ (8 - (k + 1))) := checkedMul_eq_some.mpr ⟨by omega, rfl⟩
  have raised : checkedMul 256 (x ^ (k + 1)) x = some (x ^ (k + 2)) :=
    checkedMul_eq_some.mpr ⟨lt_of_le_of_lt power (by norm_num), Nat.pow_succ _ _⟩
  have added : checkedAdd 256 (series (k + 1) x gamma)
      (x ^ (k + 1) * gamma ^ (8 - (k + 1)) / (k + 1).factorial) = some (series (k + 2) x gamma) := by
    have total := series_lt x_lt gamma_lt (show k + 2 ≤ 9 by omega)
    have next : series (k + 2) x gamma = series (k + 1) x gamma +
        x ^ (k + 1) * gamma ^ (8 - (k + 1)) / (k + 1).factorial := Finset.sum_range_succ _ _
    exact checkedAdd_eq_some.mpr ⟨by omega, next⟩
  simp only [expTerm, lowered, multiplied, raised, added, orError, ok_bind]
  rfl

theorem expTerms_eq (positive : 0 < gamma) {n : Nat} (few : n ≤ 6) :
    ((List.range n).map fun k => (k + 1).factorial).foldlM (expTerm x gamma)
        (x, gamma ^ 8, gamma ^ 8) =
      .ok (x ^ (n + 1), gamma ^ (8 - n), series (n + 1) x gamma) := by
  induction n with
  | zero =>
    rw [series_one, Nat.pow_one]
    rfl
  | succ n ih =>
    rw [List.range_succ, List.map_append, List.foldlM_append, ih (by omega), ok_bind]
    simp only [List.map_cons, List.map_nil, List.foldlM_cons, List.foldlM_nil,
      expTerm_eq x_lt gamma_lt positive (show n ≤ 5 by omega), ok_bind]
    rfl

theorem expSeries_eq (positive : 0 < gamma) :
    expSeries x gamma (gamma ^ 8) = .ok (series 9 x gamma) := by
  have rounds := expTerms_eq x_lt gamma_lt positive (le_refl 6)
  have total := series_lt x_lt gamma_lt (le_refl 9)
  have eighth := power_le x_lt gamma_lt (show 8 + 0 ≤ 8 by omega)
  have seventh := power_le x_lt gamma_lt (show 7 + 1 ≤ 8 by omega)
  rw [Nat.pow_zero, Nat.mul_one] at eighth
  rw [Nat.pow_one] at seventh
  have last : series 9 x gamma = series 7 x gamma + x ^ 7 * gamma / 5040 + x ^ 8 / 40320 := by
    simp [series, Finset.sum_range_succ, Nat.factorial_succ]
  have raised : checkedMul 256 (x ^ 7) x = some (x ^ 8) :=
    checkedMul_eq_some.mpr ⟨lt_of_le_of_lt eighth (by norm_num), Nat.pow_succ _ _⟩
  have multiplied : checkedMul 256 (x ^ 7) gamma = some (x ^ 7 * gamma) :=
    checkedMul_eq_some.mpr ⟨by omega, rfl⟩
  have added : checkedAdd 256 (series 7 x gamma) (x ^ 7 * gamma / 5040) =
      some (series 7 x gamma + x ^ 7 * gamma / 5040) := checkedAdd_eq_some.mpr ⟨by omega, rfl⟩
  have added' : checkedAdd 256 (series 7 x gamma + x ^ 7 * gamma / 5040) (x ^ 8 / 40320) =
      some (series 9 x gamma) := checkedAdd_eq_some.mpr ⟨by omega, last⟩
  change [1, 2, 6, 24, 120, 720].foldlM (expTerm x gamma) _ = _ at rounds
  unfold expSeries
  rw [rounds, ok_bind]
  simp only [raised, multiplied, added, added', orError, ok_bind]

end Fits

/-! ## Shares -/

/-- The part of `alpha` that a weight has of itself and the rest. -/
def share (alpha rest weight : Nat) : Nat :=
  alpha * weight / (rest + weight)

theorem share_le_self (alpha rest weight : Nat) : share alpha rest weight ≤ alpha := by
  unfold share
  refine Nat.div_le_of_le_mul ?_
  rw [Nat.mul_comm]
  exact Nat.mul_le_mul_right _ (Nat.le_add_left _ _)

/-- A share grows with its weight and with what is shared, and shrinks with the rest. -/
theorem share_mono {rest weight rest' weight' : Nat} (more : alpha ≤ bound) (less : rest' ≤ rest)
    (heavier : weight ≤ weight') (positive : 0 < weight') :
    share alpha rest weight ≤ share bound rest' weight' := by
  have floor : share alpha rest weight * (rest + weight) ≤ alpha * weight :=
    Nat.div_mul_le_self _ _
  have below := share_le_self alpha rest weight
  generalize share alpha rest weight = portion at floor below
  obtain ⟨extra, rfl⟩ := Nat.exists_eq_add_of_le heavier
  refine (Nat.le_div_iff_mul_le (by omega)).mpr ?_
  calc portion * (rest' + (weight + extra))
      = portion * (rest' + weight) + portion * extra := by rw [← Nat.mul_add, Nat.add_assoc]
    _ ≤ portion * (rest + weight) + alpha * extra :=
        Nat.add_le_add (Nat.mul_le_mul_left _ (Nat.add_le_add_right less _))
          (Nat.mul_le_mul_right _ below)
    _ ≤ alpha * weight + alpha * extra := Nat.add_le_add_right floor _
    _ = alpha * (weight + extra) := (Nat.mul_add _ _ _).symm
    _ ≤ bound * (weight + extra) := Nat.mul_le_mul_right _ more

/-! ## The sigmoid -/

/-- The sigmoid in exact arithmetic. -/
def sigma (x gamma alpha beta : Nat) : Nat :=
  if beta < x then
    if gamma * 6 ≤ x - beta then alpha else share alpha (gamma ^ 8) (series 9 (x - beta) gamma)
  else if gamma * 6 ≤ beta - x then 0 else share alpha (series 9 (beta - x) gamma) (gamma ^ 8)

theorem sigma_le (x gamma alpha beta : Nat) : sigma x gamma alpha beta ≤ alpha := by
  unfold sigma
  split_ifs
  · exact le_refl _
  · exact share_le_self _ _ _
  · exact Nat.zero_le _
  · exact share_le_self _ _ _

theorem sigma_mono (positive : 0 < gamma) (le : x ≤ y) (more : alpha ≤ bound) (beta : Nat) :
    sigma x gamma alpha beta ≤ sigma y gamma bound beta := by
  have weight : 0 < gamma ^ 8 := Nat.pow_pos positive
  have heavy := fun x => weight.trans_le (le_series x gamma)
  unfold sigma
  by_cases above : beta < x
  · rw [if_pos above, if_pos (by omega : beta < y)]
    split_ifs with far far'
    · exact more
    · omega
    · exact (share_le_self _ _ _).trans more
    · exact share_mono more (le_refl _) (series_mono (by omega) _ gamma) (heavy _)
  · rw [if_neg above]
    by_cases far : gamma * 6 ≤ beta - x
    · rw [if_pos far]
      exact Nat.zero_le _
    · rw [if_neg far]
      split_ifs with above' far' far'
      · exact (share_le_self _ _ _).trans more
      · -- across `beta` both sides are compared at equal weights
        exact share_mono more (le_series _ gamma) (le_series _ gamma) (heavy _)
      · omega
      · exact share_mono more (series_mono (by omega) _ gamma) (le_refl _) weight

/-- What the products and sums of a sigmoid without a check stay below. -/
theorem unchecked_lt (x_lt : x < gamma * 6) (gamma_lt : gamma < 2 ^ 16) :
    gamma ^ 8 + series 9 x gamma < 2 ^ 256 ∧ ∀ weight ≤ series 9 x gamma,
      ∀ alpha ≤ u16Max, alpha * weight < 2 ^ 256 := by
  have total := series_lt (show x < 2 ^ 19 by omega) (show gamma < 2 ^ 19 by omega) (le_refl 9)
  have least := le_series x gamma
  refine ⟨by omega, fun weight le alpha small => ?_⟩
  exact lt_of_le_of_lt (Nat.mul_le_mul small (le.trans total.le)) (by norm_num [u16Max])

theorem powerEight_eq (gamma_lt : gamma < 2 ^ 16) : powerEight gamma = .ok (gamma ^ 8) := by
  have wide : gamma < 2 ^ 19 := by omega
  have product : ∀ k j, k + j ≤ 8 →
      checkedMul 256 (gamma ^ k) (gamma ^ j) = some (gamma ^ (k + j)) := by
    intro k j degree
    have small := power_le wide wide degree
    exact checkedMul_eq_some.mpr ⟨by omega, Nat.pow_add _ _ _⟩
  have squared := product 1 1 (by decide)
  rw [Nat.pow_one] at squared
  simp only [powerEight, squared, product 2 2 (by decide), product 4 4 (by decide), orError, ok_bind]

/-- The deployed sigmoid computes the exact one. -/
theorem sigmoid_eq (positive : 0 < gamma) (gamma_lt : gamma < 2 ^ 16) (small : alpha ≤ u16Max)
    (x beta : Nat) : sigmoid x gamma alpha beta = .ok (sigma x gamma alpha beta) := by
  unfold sigmoid sigma share
  rw [require_of positive.ne', ok_bind, powerEight_eq gamma_lt, ok_bind]
  dsimp only
  split_ifs with above far far
  · rfl
  · have near : x - beta < gamma * 6 := Nat.not_le.mp far
    obtain ⟨sum, product⟩ := unchecked_lt near gamma_lt
    rw [expSeries_eq (by omega) (by omega) positive, ok_bind,
      Nat.mod_eq_of_lt (product _ (le_refl _) _ small), Nat.mod_eq_of_lt sum]
    rfl
  · rfl
  · have near : beta - x < gamma * 6 := Nat.not_le.mp far
    obtain ⟨sum, product⟩ := unchecked_lt near gamma_lt
    rw [expSeries_eq (by omega) (by omega) positive, ok_bind,
      checkedAdd_eq_some.mpr ⟨sum, rfl⟩, Nat.mod_eq_of_lt (product _ (le_series _ _) _ small),
      Nat.add_comm]
    rfl

/-! ## The fee -/

namespace AdaptiveFeeConfiguration

/-- The fields are values of their types. -/
structure Typed (config : AdaptiveFeeConfiguration) : Prop where
  gamma1 : config.gamma1 < 2 ^ 16
  gamma2 : config.gamma2 < 2 ^ 16
  volumeGamma : config.volumeGamma < 2 ^ 16

/-- The fee in exact arithmetic. -/
def exactFee (config : AdaptiveFeeConfiguration) (volatility volumePerLiquidity : Nat) : Nat :=
  config.baseFee + sigma volumePerLiquidity config.volumeGamma
    (sigma volatility config.gamma1 config.alpha1 config.beta1 +
      sigma volatility config.gamma2 config.alpha2 config.beta2) config.volumeBeta

variable {config : AdaptiveFeeConfiguration}

theorem validate_eq_ok (valid : config.validate = .ok ()) :
    config.alpha1 + config.alpha2 + config.baseFee ≤ u16Max ∧
      0 < config.gamma1 ∧ 0 < config.gamma2 ∧ 0 < config.volumeGamma := by
  simp only [validate, bind_eq_ok, require_eq_ok, exists_const] at valid
  obtain ⟨sum, first, second, third⟩ := valid
  exact ⟨sum, Nat.pos_of_ne_zero first, Nat.pos_of_ne_zero second, Nat.pos_of_ne_zero third⟩

theorem exactFee_bounds (config : AdaptiveFeeConfiguration) (volatility volume : Nat) :
    config.baseFee ≤ config.exactFee volatility volume ∧
      config.exactFee volatility volume ≤ config.baseFee + config.alpha1 + config.alpha2 := by
  have first := sigma_le volatility config.gamma1 config.alpha1 config.beta1
  have second := sigma_le volatility config.gamma2 config.alpha2 config.beta2
  have total := sigma_le volume config.volumeGamma
    (sigma volatility config.gamma1 config.alpha1 config.beta1 +
      sigma volatility config.gamma2 config.alpha2 config.beta2) config.volumeBeta
  unfold exactFee
  omega

theorem fee_eq (valid : config.validate = .ok ()) (typed : config.Typed) (volatility volume : Nat) :
    config.fee volatility volume = .ok (config.exactFee volatility volume) := by
  obtain ⟨sum, first, second, third⟩ := validate_eq_ok valid
  have firstLe := sigma_le volatility config.gamma1 config.alpha1 config.beta1
  have secondLe := sigma_le volatility config.gamma2 config.alpha2 config.beta2
  have bounds := config.exactFee_bounds volatility volume
  unfold exactFee at *
  unfold fee
  rw [valid, ok_bind, sigmoid_eq first typed.gamma1 (by omega), ok_bind,
    sigmoid_eq second typed.gamma2 (by omega), ok_bind]
  generalize sigma volatility config.gamma1 config.alpha1 config.beta1 = left at *
  generalize sigma volatility config.gamma2 config.alpha2 config.beta2 = right at *
  have capped : min (left + right) u16Max = left + right := min_eq_left (by omega)
  have charged := sigmoid_eq third typed.volumeGamma (show left + right ≤ u16Max by omega) volume
    config.volumeBeta
  generalize sigma volume config.volumeGamma (left + right) config.volumeBeta = variableFee at *
  unfold u16Max at sum
  have narrow : checkedNat 16 variableFee = some variableFee :=
    checkedNat_eq_some.mpr ⟨by omega, rfl⟩
  rw [checkedAdd_eq_some.mpr ⟨by omega, rfl⟩]
  simp only [orError, ok_bind, capped, charged, narrow]
  rw [checkedAdd_eq_some.mpr ⟨by omega, rfl⟩]

theorem exactFee_mono (valid : config.validate = .ok ()) {volatility volatility' volume volume' : Nat}
    (moreVolatile : volatility ≤ volatility') (moreVolume : volume ≤ volume') :
    config.exactFee volatility volume ≤ config.exactFee volatility' volume' := by
  obtain ⟨_, first, second, third⟩ := validate_eq_ok valid
  have sums := Nat.add_le_add (sigma_mono first moreVolatile (le_refl config.alpha1) config.beta1)
    (sigma_mono second moreVolatile (le_refl config.alpha2) config.beta2)
  exact Nat.add_le_add_left (sigma_mono third moreVolume sums config.volumeBeta) _

end AdaptiveFeeConfiguration

open AdaptiveFeeConfiguration

/-- A valid configuration has a fee at every volatility and volume.  It lies between the base fee and
the maximum, never falls when either grows, and no product or sum on the way leaves 256 bits. -/
theorem adaptive_fee_total_bounded_monotone {config : AdaptiveFeeConfiguration}
    (valid : config.validate = .ok ()) (typed : config.Typed) :
    (∀ volatility volume, ∃ fee, config.fee volatility volume = .ok fee ∧
      config.baseFee ≤ fee ∧ fee ≤ config.baseFee + config.alpha1 + config.alpha2) ∧
    (∀ volatility volatility' volume volume' fee fee', volatility ≤ volatility' →
      volume ≤ volume' → config.fee volatility volume = .ok fee →
      config.fee volatility' volume' = .ok fee' → fee ≤ fee') ∧
    ∀ gamma ∈ [config.gamma1, config.gamma2, config.volumeGamma], gamma * 6 < 2 ^ 256 ∧
      ∀ x < gamma * 6, ∃ exponent, expSeries x gamma (gamma ^ 8) = .ok exponent ∧
        gamma ^ 8 + exponent < 2 ^ 256 ∧ ∀ alpha ≤ u16Max,
          alpha * exponent < 2 ^ 256 ∧ alpha * gamma ^ 8 < 2 ^ 256 := by
  refine ⟨?_, ?_, ?_⟩
  · intro volatility volume
    exact ⟨_, fee_eq valid typed volatility volume, config.exactFee_bounds volatility volume⟩
  · intro volatility volatility' volume volume' fee fee' moreVolatile moreVolume charged charged'
    rw [fee_eq valid typed] at charged charged'
    cases charged
    cases charged'
    exact exactFee_mono valid moreVolatile moreVolume
  · intro gamma mem
    obtain ⟨_, first, second, third⟩ := validate_eq_ok valid
    have word : 0 < gamma ∧ gamma < 2 ^ 16 := by
      simp only [List.mem_cons, List.not_mem_nil, or_false] at mem
      rcases mem with rfl | rfl | rfl
      · exact ⟨first, typed.gamma1⟩
      · exact ⟨second, typed.gamma2⟩
      · exact ⟨third, typed.volumeGamma⟩
    refine ⟨by omega, fun x near => ⟨_, expSeries_eq (by omega) (by omega) word.1, ?_⟩⟩
    obtain ⟨sum, product⟩ := unchecked_lt near word.2
    exact ⟨sum, fun alpha small => ⟨product _ (le_refl _) alpha small,
      product _ (le_series _ _) alpha small⟩⟩

/-- At a configuration that meets the deployed constraints. -/
theorem adaptive_fee_total_bounded_monotone_deployed :
    ∃ fee, (⟨2900, 12000, 360, 60000, 59, 8500, 0, 10, 100⟩ : AdaptiveFeeConfiguration).fee 400 20 =
      .ok fee ∧ 100 ≤ fee ∧ fee ≤ 15000 :=
  (adaptive_fee_total_bounded_monotone (by rfl) ⟨by decide, by decide, by decide⟩).1 400 20

end PolyBot.Dex
