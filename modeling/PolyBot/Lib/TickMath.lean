import Mathlib.Tactic.Linarith

/-!
# Prices of ticks

The square root of `1.0001 ^ tick` as a fixed-point number with 96 fractional bits, computed as the
reference library computes it: one factor for each bit of the absolute tick, in 128 fractional bits,
the reciprocal for a positive tick, rounded up to 96 bits.

* `TickMath.getSqrtRatioAtTick_bounds`: every price lies between the prices of the two end ticks.
-/

namespace TickMath

/-- `1.0001 ^ (-2 ^ i / 2)` in 128 fractional bits, for each bit `i` of an absolute tick. -/
def factors : List Nat :=
  [0xfffcb933bd6fad37aa2d162d1a594001, 0xfff97272373d413259a46990580e213a,
    0xfff2e50f5f656932ef12357cf3c7fdcc, 0xffe5caca7e10e4e61c3624eaa0941cd0,
    0xffcb9843d60f6159c9db58835c926644, 0xff973b41fa98c081472e6896dfb254c0,
    0xff2ea16466c96a3843ec78b326b52861, 0xfe5dee046a99a2a811c461f1969c3053,
    0xfcbe86c7900a88aedcffc83b479aa3a4, 0xf987a7253ac413176f2b074cf7815e54,
    0xf3392b0822b70005940c7a398e4b70f3, 0xe7159475a2c29b7443b29c7fa6e889d9,
    0xd097f3bdfd2022b8845ad8f792aa5825, 0xa9f746462d870fdf8a65dc1f90e061e5,
    0x70d869a156d2a1b890bb3df62baf32f7, 0x31be135f97d08fd981231505542fcfa6,
    0x9aa508b5b7a84e1c677de54f3e99bc9, 0x5d6af8dedb81196699c329225ee604,
    0x2216e584f5fa1ea926041bedfe98, 0x48a170391f7dc42444e8fa2]

/-- Multiplies the factors of the set bits of `n`, lowest first, cutting each product. -/
def scale : List Nat → Nat → Nat → Nat
  | [], _, ratio => ratio
  | factor :: rest, n, ratio =>
    scale rest (n / 2) (if n % 2 = 1 then ratio * factor / 2 ^ 128 else ratio)

/-- The price of `-absTick` in 128 fractional bits. -/
def ratioX128 (absTick : Nat) : Nat :=
  scale factors absTick (2 ^ 128)

/-- From 128 to 96 fractional bits, rounded up. -/
def roundX96 (ratio : Nat) : Nat :=
  ratio / 2 ^ 32 + if ratio % 2 ^ 32 = 0 then 0 else 1

def getSqrtRatioAtTick (tick : Int) : Option Nat :=
  if tick.natAbs ≤ 887272 then
    let ratio := ratioX128 tick.natAbs
    some (roundX96 (if 0 < tick then (2 ^ 256 - 1) / ratio else ratio))
  else none

/-- Halves the range of ticks between one whose price is at most `sqrtPrice` and one whose price is
above it. -/
def bisect (sqrtPrice : Nat) : Nat → Int → Int → Int
  | 0, low, _ => low
  | steps + 1, low, high =>
    let middle := (low + high) / 2
    if ((getSqrtRatioAtTick middle).all (· ≤ sqrtPrice)) then bisect sqrtPrice steps middle high
    else bisect sqrtPrice steps low middle

/-- The greatest tick whose price is at most `sqrtPrice`. -/
def getTickAtSqrtRatio (sqrtPrice : Nat) : Option Int :=
  if 4295128739 ≤ sqrtPrice ∧ sqrtPrice < 1461446703485210103287273052203988822378723970342 then
    some (bisect sqrtPrice 21 (-887272) 887272)
  else none

/-! ## Bounds -/

variable {n ratio : Nat} {ratio' : Nat} {tick : Int}

/-- Setting bits of the tick makes the product smaller. -/
theorem scale_antitone {factors : List Nat} (small : ∀ factor ∈ factors, factor ≤ 2 ^ 128) {m : Nat}
    (bits : ∀ i, n.testBit i = true → m.testBit i = true) (below : ratio' ≤ ratio) :
    scale factors m ratio' ≤ scale factors n ratio := by
  induction factors generalizing n m ratio ratio' with
  | nil => exact below
  | cons factor rest ih =>
    have shrinks : ∀ value : Nat, value * factor / 2 ^ 128 ≤ value := by
      intro value
      apply Nat.div_le_of_le_mul
      rw [Nat.mul_comm]
      exact Nat.mul_le_mul_right value (small factor (List.mem_cons_self ..))
    have monotone : ratio' * factor / 2 ^ 128 ≤ ratio * factor / 2 ^ 128 :=
      Nat.div_le_div_right (Nat.mul_le_mul_right factor below)
    have lowest := bits 0
    rw [Nat.testBit_zero, Nat.testBit_zero, decide_eq_true_eq, decide_eq_true_eq] at lowest
    apply ih (fun other mem => small other (List.mem_cons_of_mem factor mem))
    · intro i set
      rw [Nat.testBit_div_two] at set ⊢
      exact bits (i + 1) set
    · -- the bit of this factor may be set in `m` only
      by_cases inN : n % 2 = 1
      · rw [if_pos inN, if_pos (lowest inN)]
        exact monotone
      · rw [if_neg inN]
        split
        · exact (shrinks ratio').trans below
        · exact below

/-- Numbers whose bits cover those of every number below `top`: at each set bit of `top`, the bits
above it, that bit cleared and all bits below it set. -/
def covers : Nat → Nat → List Nat
  | 0, _ => []
  | width + 1, top =>
    (covers width (top / 2)).map (2 * · + 1) ++ if top % 2 = 1 then [top - 1] else []

theorem exists_cover {width top : Nat} (fits : top < 2 ^ width) (below : n < top) :
    ∃ m ∈ covers width top, ∀ i, n.testBit i = true → m.testBit i = true := by
  induction width generalizing top n with
  | zero => omega
  | succ width ih =>
    by_cases strict : n / 2 < top / 2
    · obtain ⟨m, mem, bits⟩ := ih (by omega) strict
      refine ⟨2 * m + 1, ?_, ?_⟩
      · exact List.mem_append_left _ (List.mem_map.mpr ⟨m, mem, rfl⟩)
      · intro i set
        rcases i with _ | i
        · simp
        · have half : (2 * m + 1) / 2 = m := by omega
          rw [Nat.testBit_succ] at set ⊢
          rw [half]
          exact bits i set
    · -- the halves agree, so only the lowest bit differs
      refine ⟨top - 1, ?_, ?_⟩
      · apply List.mem_append_right
        rw [if_pos (by omega)]
        exact List.mem_singleton.mpr rfl
      · intro i set
        have same : n = top - 1 := by omega
        exact same ▸ set

theorem ratioX128_le (n : Nat) : ratioX128 n ≤ 2 ^ 128 := by
  have empty : scale factors 0 (2 ^ 128) = 2 ^ 128 := by decide +kernel
  rw [← empty]
  exact scale_antitone (by decide +kernel) (by simp) le_rfl

theorem le_ratioX128 (inside : n ≤ 887272) : ratioX128 887272 ≤ ratioX128 n := by
  have fits : 887273 < 2 ^ 20 := by omega
  obtain ⟨m, mem, bits⟩ := exists_cover fits (Nat.lt_succ_of_le inside)
  have least : ∀ m ∈ covers 20 887273, ratioX128 887272 ≤ ratioX128 m := by decide +kernel
  exact (least m mem).trans (scale_antitone (by decide +kernel) bits le_rfl)

theorem roundX96_mono (le : ratio ≤ ratio') : roundX96 ratio ≤ roundX96 ratio' := by
  unfold roundX96
  split <;> split <;> omega

theorem getSqrtRatioAtTick_range (priced : getSqrtRatioAtTick tick = some ratio) :
    -887272 ≤ tick ∧ tick ≤ 887272 := by
  unfold getSqrtRatioAtTick at priced
  split at priced
  · omega
  · cases priced

/-- Every price lies between the prices of the two end ticks. -/
theorem getSqrtRatioAtTick_bounds (priced : getSqrtRatioAtTick tick = some ratio) :
    4295128739 ≤ ratio ∧ ratio ≤ 1461446703485210103287273052203988822378723970342 := by
  unfold getSqrtRatioAtTick at priced
  split at priced
  case isFalse => cases priced
  case isTrue inside =>
    have low := le_ratioX128 inside
    have high := ratioX128_le tick.natAbs
    have lowest : roundX96 (ratioX128 887272) = 4295128739 := by decide +kernel
    have highest : roundX96 ((2 ^ 256 - 1) / ratioX128 887272) =
        1461446703485210103287273052203988822378723970342 := by decide +kernel
    have middle : roundX96 (2 ^ 128) = 2 ^ 96 := by decide +kernel
    have reciprocal : roundX96 ((2 ^ 256 - 1) / 2 ^ 128) = 2 ^ 96 := by decide +kernel
    cases priced
    split
    · have positive : 0 < ratioX128 887272 := by decide +kernel
      have above : (2 ^ 256 - 1) / 2 ^ 128 ≤ (2 ^ 256 - 1) / ratioX128 tick.natAbs :=
        Nat.div_le_div_left high (by omega)
      have below : (2 ^ 256 - 1) / ratioX128 tick.natAbs ≤ (2 ^ 256 - 1) / ratioX128 887272 :=
        Nat.div_le_div_left low positive
      have least := roundX96_mono above
      have greatest := roundX96_mono below
      omega
    · have above := roundX96_mono low
      have below := roundX96_mono high
      omega

theorem getSqrtRatioAtTick_isSome (low : -887272 ≤ tick) (high : tick ≤ 887272) :
    ∃ ratio, getSqrtRatioAtTick tick = some ratio := by
  rw [getSqrtRatioAtTick, if_pos (by omega)]
  exact ⟨_, rfl⟩

end TickMath
