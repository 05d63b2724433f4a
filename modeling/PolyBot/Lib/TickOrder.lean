import PolyBot.Lib.TickMath

/-!
# The order of prices

A higher tick has a higher price, although every product on the way is cut.  Counting up by one clears
a run of low bits and sets the next, which makes the product smaller by a margin that the cuts behind
it cannot use up.

* `TickMath.getSqrtRatioAtTick_strictMono`: prices are strictly ordered.
* `TickMath.getTickAtSqrtRatio_spec`: the tick of a price is the last one whose price is at most it.
-/

namespace TickMath

/-! ## Cut products -/

variable {ratio ratio' : Nat} {tick : Int}

theorem scale_mono (factors : List Nat) (n : Nat) (le : ratio ≤ ratio') :
    scale factors n ratio ≤ scale factors n ratio' := by
  induction factors generalizing n ratio ratio' with
  | nil => exact le
  | cons factor rest ih =>
    apply ih
    split
    · exact Nat.div_le_div_right (Nat.mul_le_mul_right factor le)
    · exact le

/-- Cutting a sum loses no more than cutting its parts. -/
theorem scale_add_le (factors : List Nat) (n ratio margin : Nat) :
    scale factors n ratio + scale factors n margin ≤ scale factors n (ratio + margin) := by
  induction factors generalizing n ratio margin with
  | nil => exact le_rfl
  | cons factor rest ih =>
    rw [scale, scale, scale]
    refine (ih ..).trans (scale_mono rest _ ?_)
    split
    · rw [Nat.add_mul]
      omega
    · exact le_rfl

/-- From here on, every carry of a number up to `top` leaves a margin of `2 ^ 34`: `ratio` is the
product of all lower factors, which the carry replaces by the next one. -/
def marginal : List Nat → Nat → Nat → Bool
  | [], _, _ => true
  | factor :: rest, top, ratio =>
    factor ≤ ratio &&
      (covers 20 (top / 2 + 1)).all (2 ^ 34 ≤ scale rest · (ratio - factor)) &&
      marginal rest (top / 2) (ratio * factor / 2 ^ 128)

variable {n sqrtPrice : Nat} {other : Int}

theorem scale_succ_le {factors : List Nat} (small : ∀ factor ∈ factors, factor ≤ 2 ^ 128)
    {top : Nat} (holds : marginal factors top ratio = true) (le : n ≤ top)
    (fits : top / 2 + 1 < 2 ^ 20) (inside : n + 1 < 2 ^ factors.length) :
    scale factors (n + 1) (2 ^ 128) + 2 ^ 34 ≤ scale factors n ratio := by
  induction factors generalizing top ratio n with
  | nil =>
    rw [List.length_nil] at inside
    omega
  | cons factor rest ih =>
    simp only [marginal, Bool.and_eq_true, decide_eq_true_eq, List.all_eq_true] at holds
    obtain ⟨⟨below, margins⟩, behind⟩ := holds
    have small' : ∀ other ∈ rest, other ≤ 2 ^ 128 := fun other mem =>
      small other (List.mem_cons_of_mem factor mem)
    rw [scale, scale]
    by_cases odd : n % 2 = 1
    · -- the carry goes on to the next bit
      have half : (n + 1) / 2 = n / 2 + 1 := by omega
      rw [if_pos odd, if_neg (by omega : ¬ (n + 1) % 2 = 1), half]
      rw [List.length_cons, pow_succ] at inside
      exact ih small' behind (by omega) (by omega) (by omega)
    · have half : (n + 1) / 2 = n / 2 := by omega
      have first : 2 ^ 128 * factor / 2 ^ 128 = factor := Nat.mul_div_cancel_left _ (by norm_num)
      rw [if_neg odd, if_pos (by omega : (n + 1) % 2 = 1), half, first]
      obtain ⟨m, mem, bits⟩ := exists_cover fits (by omega : n / 2 < top / 2 + 1)
      have margin : 2 ^ 34 ≤ scale rest (n / 2) (ratio - factor) :=
        (margins m mem).trans (scale_antitone small' bits le_rfl)
      have split := scale_add_le rest (n / 2) factor (ratio - factor)
      rw [Nat.add_sub_cancel' below] at split
      omega

theorem ratioX128_succ_le (inside : n < 887272) : ratioX128 (n + 1) + 2 ^ 34 ≤ ratioX128 n := by
  have margins : marginal factors 887271 (2 ^ 128) = true := by decide +kernel
  have count : factors.length = 20 := rfl
  exact scale_succ_le (by decide +kernel) margins (by omega) (by norm_num) (by rw [count]; omega)

/-! ## Prices -/

theorem roundX96_lt (margin : ratio + 2 ^ 32 ≤ ratio') : roundX96 ratio < roundX96 ratio' := by
  unfold roundX96
  split <;> split <;> omega

/-- The margin of the reciprocals. -/
theorem reciprocal_succ_le (positive : 0 < ratio') (top : ratio ≤ 2 ^ 128)
    (margin : ratio' + 2 ^ 34 ≤ ratio) :
    (2 ^ 256 - 1) / ratio + 2 ^ 33 ≤ (2 ^ 256 - 1) / ratio' := by
  have floor : (2 ^ 256 - 1) / ratio * ratio ≤ 2 ^ 256 - 1 := Nat.div_mul_le_self ..
  have least : (2 ^ 256 - 1) / 2 ^ 128 ≤ (2 ^ 256 - 1) / ratio :=
    Nat.div_le_div_left top (by omega)
  have value : (2 ^ 256 - 1) / 2 ^ 128 = 2 ^ 128 - 1 := by norm_num
  rw [value] at least
  rw [Nat.le_div_iff_mul_le positive]
  generalize (2 ^ 256 - 1) / ratio = quotient at floor least ⊢
  refine le_trans ?_ floor
  obtain ⟨rest, rfl⟩ := Nat.exists_eq_add_of_le margin
  have enough : 2 ^ 33 * ratio' ≤ quotient * 2 ^ 34 := by
    have low : ratio' ≤ quotient := by omega
    nlinarith
  nlinarith

theorem getSqrtRatioAtTick_succ (priced : getSqrtRatioAtTick tick = some ratio)
    (priced' : getSqrtRatioAtTick (tick + 1) = some ratio') : ratio < ratio' := by
  unfold getSqrtRatioAtTick at priced priced'
  split at priced
  case isFalse => cases priced
  split at priced'
  case isFalse => cases priced'
  rename_i inside inside'
  cases priced
  cases priced'
  by_cases negative : tick < 0
  · have abs : tick.natAbs = (tick + 1).natAbs + 1 := by omega
    have margin := ratioX128_succ_le (by omega : (tick + 1).natAbs < 887272)
    rw [if_neg (by omega), if_neg (by omega), abs]
    exact roundX96_lt (by omega)
  · have abs : (tick + 1).natAbs = tick.natAbs + 1 := by omega
    have margin := ratioX128_succ_le (by omega : tick.natAbs < 887272)
    have positive : 0 < ratioX128 (tick.natAbs + 1) := by
      have low := le_ratioX128 (by omega : tick.natAbs + 1 ≤ 887272)
      have last : 0 < ratioX128 887272 := by decide +kernel
      omega
    have grown := reciprocal_succ_le positive (ratioX128_le _) margin
    -- the price of tick zero is the same from either side
    have same : roundX96 (if 0 < tick then (2 ^ 256 - 1) / ratioX128 tick.natAbs
        else ratioX128 tick.natAbs) = roundX96 ((2 ^ 256 - 1) / ratioX128 tick.natAbs) := by
      split
      · rfl
      · have zero : tick = 0 := by omega
        subst zero
        decide +kernel
    rw [same, if_pos (by omega), abs]
    exact roundX96_lt (by omega)

/-- A higher tick has a higher price. -/
theorem getSqrtRatioAtTick_strictMono (lt : tick < other)
    (priced : getSqrtRatioAtTick tick = some ratio)
    (priced' : getSqrtRatioAtTick other = some ratio') : ratio < ratio' := by
  obtain ⟨distance, rfl⟩ : ∃ distance : Nat, other = tick + 1 + distance :=
    ⟨(other - tick - 1).toNat, by omega⟩
  have low := (getSqrtRatioAtTick_range priced).1
  induction distance generalizing ratio' with
  | zero =>
    rw [Nat.cast_zero, add_zero] at priced'
    exact getSqrtRatioAtTick_succ priced priced'
  | succ distance ih =>
    have high := (getSqrtRatioAtTick_range priced').2
    obtain ⟨middle, pricedMiddle⟩ := getSqrtRatioAtTick_isSome
      (by omega : -887272 ≤ tick + 1 + (distance : Int)) (by omega)
    have next : tick + 1 + ((distance + 1 : Nat) : Int) = tick + 1 + (distance : Int) + 1 := by omega
    rw [next] at priced'
    exact (ih (by omega) pricedMiddle).trans (getSqrtRatioAtTick_succ pricedMiddle priced')

theorem getSqrtRatioAtTick_le_iff (priced : getSqrtRatioAtTick tick = some ratio)
    (priced' : getSqrtRatioAtTick other = some ratio') : ratio ≤ ratio' ↔ tick ≤ other := by
  constructor
  · intro le
    by_contra less
    have := getSqrtRatioAtTick_strictMono (not_le.mp less) priced' priced
    omega
  · intro le
    rcases le.lt_or_eq with lt | rfl
    · exact (getSqrtRatioAtTick_strictMono lt priced priced').le
    · exact (Option.some.inj (priced.symm.trans priced')).le

/-! ## The tick of a price -/

theorem bisect_spec {steps : Nat} {low high : Int} (bottom : -887272 ≤ low) (top : high ≤ 887272)
    (lt : low < high) (near : high - low ≤ 2 ^ steps)
    (atLow : ∀ ratio, getSqrtRatioAtTick low = some ratio → ratio ≤ sqrtPrice)
    (atHigh : ∀ ratio, getSqrtRatioAtTick high = some ratio → sqrtPrice < ratio) :
    -887272 ≤ bisect sqrtPrice steps low high ∧ bisect sqrtPrice steps low high < 887272 ∧
      (∀ ratio, getSqrtRatioAtTick (bisect sqrtPrice steps low high) = some ratio →
        ratio ≤ sqrtPrice) ∧
      ∀ ratio, getSqrtRatioAtTick (bisect sqrtPrice steps low high + 1) = some ratio →
        sqrtPrice < ratio := by
  induction steps generalizing low high with
  | zero =>
    have next : high = low + 1 := by
      rw [pow_zero] at near
      omega
    subst next
    exact ⟨bottom, by rw [bisect]; omega, atLow, atHigh⟩
  | succ steps ih =>
    rw [pow_succ] at near
    rw [bisect]
    obtain ⟨middle, priced⟩ := getSqrtRatioAtTick_isSome
      (by omega : -887272 ≤ (low + high) / 2) (by omega)
    rw [priced, Option.all_some]
    by_cases below : middle ≤ sqrtPrice
    · rw [if_pos (decide_eq_true below)]
      by_cases moved : (low + high) / 2 < high
      · refine ih (by omega) top moved (by omega) ?_ atHigh
        intro ratio same
        cases priced.symm.trans same
        exact below
      · omega
    · rw [if_neg (by simpa using below)]
      by_cases moved : low < (low + high) / 2
      · refine ih bottom (by omega) moved (by omega) atLow ?_
        intro ratio same
        cases priced.symm.trans same
        exact Nat.not_le.mp below
      · have same : (low + high) / 2 = low := by omega
        rw [same] at priced
        exact absurd (atLow middle priced) below

/-- The tick of a price is the last one whose price is at most it. -/
theorem getTickAtSqrtRatio_spec (found : getTickAtSqrtRatio sqrtPrice = some tick) :
    ∃ ratio next, getSqrtRatioAtTick tick = some ratio ∧
      getSqrtRatioAtTick (tick + 1) = some next ∧ ratio ≤ sqrtPrice ∧ sqrtPrice < next := by
  unfold getTickAtSqrtRatio at found
  split at found
  case isFalse => cases found
  rename_i range
  cases found
  have lowest : getSqrtRatioAtTick (-887272) = some 4295128739 := by decide +kernel
  have highest : getSqrtRatioAtTick 887272 =
      some 1461446703485210103287273052203988822378723970342 := by decide +kernel
  obtain ⟨bottom, top, atLow, atHigh⟩ := @bisect_spec sqrtPrice 21 (-887272) 887272 le_rfl le_rfl
    (by norm_num) (by norm_num)
    (fun ratio same => by cases lowest.symm.trans same; exact range.1)
    (fun ratio same => by cases highest.symm.trans same; exact range.2)
  obtain ⟨ratio, priced⟩ := getSqrtRatioAtTick_isSome bottom top.le
  obtain ⟨next, pricedNext⟩ := getSqrtRatioAtTick_isSome
    (by omega : -887272 ≤ bisect sqrtPrice 21 (-887272) 887272 + 1) (by omega)
  exact ⟨ratio, next, priced, pricedNext, atLow ratio priced, atHigh next pricedNext⟩

end TickMath
