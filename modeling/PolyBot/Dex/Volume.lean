import PolyBot.Dex.AdaptiveFee
import PolyBot.Lib.Newton

/-!
# The square root and the volume of a swap

The square root of the deployed contract starts from a power of two within a factor of three of the
root and makes seven steps, whatever the value.  They suffice for all of 256 bits, and no sum in them
wraps, so that the volume per liquidity is one formula on both of its paths.

* `sqrtSeed_near`: the seed.
* `integerSqrt_eq_sqrt`: the square root is exact.
* `square_root_and_volume_exact`: the square root and the volume.
-/

namespace PolyBot.Dex

open Newton

variable {value : Nat}

/-! ## The seed -/

/-- One threshold of the seed. -/
def shrink (acc bits : Nat × Nat) : Nat × Nat :=
  if 2 ^ bits.1 ≤ acc.1 then (acc.1 >>> bits.1, (acc.2 <<< bits.2) % 2 ^ 256) else acc

/-- What is left of the value and the power of two so far. -/
structure Shrunk (value : Nat) (acc : Nat × Nat) : Prop where
  nonzero : 0 < acc.1
  low : acc.1 * (acc.2 * acc.2) ≤ value
  high : value < (acc.1 + 1) * (acc.2 * acc.2)

theorem root_lt {root rest : Nat} (nonzero : 0 < rest) (width : value < 2 ^ 256)
    (low : rest * (root * root) ≤ value) : root < 2 ^ 128 := by
  by_contra above
  have square := Nat.mul_self_le_mul_self (Nat.not_lt.mp above)
  have most := Nat.le_mul_of_pos_left (root * root) nonzero
  omega

/-- A threshold of twice as many bits as it adds to the root keeps both bounds. -/
theorem Shrunk.shrink {acc : Nat × Nat} {bits k : Nat} (shrunk : Shrunk value acc)
    (width : value < 2 ^ 256) (double : bits = k + k) (fits : acc.1 < 2 ^ bits * 2 ^ bits) :
    Shrunk value (shrink acc (bits, k)) ∧ (Dex.shrink acc (bits, k)).1 < 2 ^ bits := by
  unfold Dex.shrink
  split
  · rename_i large
    rcases shrunk with ⟨-, low, high⟩
    rcases acc with ⟨rest, root⟩
    simp only [Nat.shiftRight_eq_div_pow, Nat.shiftLeft_eq] at *
    have square : 2 ^ bits = 2 ^ k * 2 ^ k := by rw [double, pow_add]
    have least : 0 < rest / 2 ^ bits := Nat.div_pos large (by positivity)
    have below := Nat.div_lt_of_lt_mul fits
    have cut := Nat.div_mul_le_self rest (2 ^ bits)
    have above : rest + 1 ≤ (rest / 2 ^ bits + 1) * 2 ^ bits := by
      rw [Nat.add_mul, Nat.one_mul]
      exact Nat.lt_div_mul_add (by positivity)
    generalize rest / 2 ^ bits = left at *
    rw [square] at cut above
    have low' : left * (root * 2 ^ k * (root * 2 ^ k)) ≤ value := by
      calc left * (root * 2 ^ k * (root * 2 ^ k))
        _ = left * (2 ^ k * 2 ^ k) * (root * root) := by ring
        _ ≤ rest * (root * root) := Nat.mul_le_mul_right _ cut
        _ ≤ value := low
    have small := root_lt least width low'
    rw [Nat.mod_eq_of_lt (by omega)]
    refine ⟨⟨least, low', ?_⟩, below⟩
    calc value
      _ < (rest + 1) * (root * root) := high
      _ ≤ (left + 1) * (2 ^ k * 2 ^ k) * (root * root) := Nat.mul_le_mul_right _ above
      _ = (left + 1) * (root * 2 ^ k * (root * 2 ^ k)) := by ring
  · rename_i small
    exact ⟨shrunk, Nat.lt_of_not_le small⟩

theorem sqrtSeed_eq (value : Nat) : sqrtSeed value =
    ([(128, 64), (64, 32), (32, 16), (16, 8), (8, 4), (4, 2), (3, 1)].foldl shrink (value, 1)).2 :=
  rfl

theorem sqrtSeed_near (width : value < 2 ^ 256) (positive : 0 < value) :
    0 < sqrtSeed value ∧ Near 1 7 value (sqrtSeed value) := by
  have whole : Shrunk value (value, 1) := ⟨positive, by simp, by simp⟩
  obtain ⟨shrunk, fits⟩ := whole.shrink (k := 64) width rfl (lt_of_lt_of_eq width (by norm_num))
  obtain ⟨shrunk, fits⟩ := shrunk.shrink (k := 32) width rfl (lt_of_lt_of_eq fits (by norm_num))
  obtain ⟨shrunk, fits⟩ := shrunk.shrink (k := 16) width rfl (lt_of_lt_of_eq fits (by norm_num))
  obtain ⟨shrunk, fits⟩ := shrunk.shrink (k := 8) width rfl (lt_of_lt_of_eq fits (by norm_num))
  obtain ⟨shrunk, fits⟩ := shrunk.shrink (k := 4) width rfl (lt_of_lt_of_eq fits (by norm_num))
  obtain ⟨shrunk, fits⟩ := shrunk.shrink (k := 2) width rfl (lt_of_lt_of_eq fits (by norm_num))
  simp only [sqrtSeed_eq, List.foldl_cons, List.foldl_nil]
  generalize shrink _ (4, 2) = acc at shrunk fits ⊢
  rcases acc with ⟨rest, root⟩
  rcases shrunk with ⟨nonzero, low, high⟩
  have small := root_lt nonzero width low
  have some : 0 < root := by
    apply Nat.pos_of_ne_zero
    intro zero
    simp [zero] at high
  simp only [shrink, Nat.shiftLeft_eq] at nonzero low high fits small ⊢
  split
  · rename_i large
    have floor : 8 * (root * root) ≤ rest * (root * root) := Nat.mul_le_mul_right _ large
    have ceiling : (rest + 1) * (root * root) ≤ 16 * (root * root) := Nat.mul_le_mul_right _ fits
    rw [Nat.mod_eq_of_lt (by omega)]
    exact ⟨by omega, by dsimp only; nlinarith, by dsimp only; nlinarith⟩
  · rename_i less
    have floor : 1 * (root * root) ≤ rest * (root * root) := Nat.mul_le_mul_right _ nonzero
    have ceiling : (rest + 1) * (root * root) ≤ 8 * (root * root) :=
      Nat.mul_le_mul_right _ (Nat.lt_of_not_le less)
    exact ⟨some, by dsimp only; omega, by dsimp only; omega⟩

/-! ## The steps -/

/-- The estimate after some of the steps. -/
def newtonRoot (value n : Nat) : Nat :=
  (List.range n).foldl (fun root _ => ((root + value / root) % 2 ^ 256) >>> 1) (sqrtSeed value)

/-- Neither the estimate nor the quotient by it is near the width of a word. -/
structure Tame (value root : Nat) : Prop where
  positive : 0 < root
  root_le : root ≤ 2 ^ 133
  quotient_le : value / root ≤ 2 ^ 133

theorem Tame.next {root : Nat} (tame : Tame value root) (width : value < 2 ^ 256)
    (positive : 0 < value) : Tame value (step value root) := by
  have least := sqrt_le_step (v := value) tame.positive
  have root_pos : 0 < value.sqrt := Nat.sqrt_pos.mpr positive
  have sqrt_lt : value.sqrt < 2 ^ 128 := Nat.sqrt_lt.mpr (lt_of_lt_of_eq width (by norm_num))
  have high := Nat.sqrt_le_add value
  have half : step value root ≤ 2 ^ 133 := by
    have quotient_le := tame.quotient_le
    have root_le := tame.root_le
    unfold step
    omega
  refine ⟨lt_of_lt_of_le root_pos least, half, ?_⟩
  calc value / step value root
    _ ≤ value / value.sqrt := Nat.div_le_div_left least root_pos
    _ ≤ value.sqrt + 2 := Nat.div_le_of_le_mul (by nlinarith)
    _ ≤ 2 ^ 133 := by omega

/-- The steps do not wrap: they are those of the unbounded numbers. -/
theorem newtonRoot_eq (width : value < 2 ^ 256) (positive : 0 < value) (n : Nat) :
    newtonRoot value n = (step value)^[n] (sqrtSeed value) ∧ Tame value (newtonRoot value n) := by
  induction n with
  | zero =>
    obtain ⟨seed_pos, above, below⟩ := sqrtSeed_near width positive
    change sqrtSeed value = sqrtSeed value ∧ Tame value (sqrtSeed value)
    generalize sqrtSeed value = seed at *
    have seed_lt : seed < 2 ^ 130 := by
      by_contra large
      have square := Nat.mul_self_le_mul_self (Nat.not_lt.mp large)
      omega
    refine ⟨rfl, seed_pos, by omega, ?_⟩
    exact Nat.div_le_of_le_mul (by nlinarith)
  | succ n ih =>
    rcases ih with ⟨same, tame⟩
    have next : newtonRoot value (n + 1) = step value (newtonRoot value n) := by
      have fits := Nat.add_le_add tame.root_le tame.quotient_le
      simp only [newtonRoot, List.range_succ, List.foldl_append, List.foldl_cons, List.foldl_nil] at *
      rw [Nat.mod_eq_of_lt (by omega), Nat.shiftRight_one]
      rfl
    rw [next]
    exact ⟨by rw [same, Function.iterate_succ_apply'], tame.next width positive⟩

theorem integerSqrt_eq_sqrt (width : value < 2 ^ 256) : integerSqrt value = value.sqrt := by
  unfold integerSqrt
  split
  · rename_i zero
    rw [zero, Nat.sqrt_zero]
  · rename_i nonzero
    have positive := Nat.pos_of_ne_zero nonzero
    obtain ⟨seed_pos, near⟩ := sqrtSeed_near width positive
    have sharp : (sharpen^[7] (1, 7)).2 * 2 ^ 128 < (sharpen^[7] (1, 7)).1 := by decide +kernel
    have least : value.sqrt ≤ (step value)^[7] (sqrtSeed value) := by
      rw [Function.iterate_succ_apply']
      exact sqrt_le_step (Near.run (1, 7) near seed_pos positive 6).1
    have settled : Settled value (newtonRoot value 7) := by
      rw [(newtonRoot_eq width positive 7).1]
      rcases (Near.run (1, 7) near seed_pos positive 7).2 with settled | near
      · exact settled
      · exact near.settled (lt_of_lt_of_eq width (by norm_num)) sharp least
    exact settled.min_div positive

/-! ## The volume -/

/-- The path of `calculate_volume_per_liquidity_nonzero` in words of 256 bits. -/
def volumePerLiquidityU256 (liquidity : Nat) (amount0 amount1 : Int) : Nat :=
  let product := integerSqrt amount0.natAbs * integerSqrt amount1.natAbs % 2 ^ 256
  let value :=
    if 1 <<< 192 ≤ product then (2 ^ 256 - 1) / liquidity
    else (product <<< 64) % 2 ^ 256 / liquidity
  min value (100000 <<< 64)

/-- The volume: the product of the two roots in 64 fractional bits, saturated, per unit of liquidity
and capped. -/
def volume (liquidity : Nat) (amount0 amount1 : Int) : Nat :=
  min (min (amount0.natAbs.sqrt * amount1.natAbs.sqrt * 2 ^ 64) (2 ^ 256 - 1) / liquidity)
    (100000 * 2 ^ 64)

/-- A signed word of 256 bits. -/
def IsI256 (amount : Int) : Prop :=
  -2 ^ 255 ≤ amount ∧ amount < 2 ^ 255

theorem volumePerLiquidityU256_eq {amount0 amount1 : Int} (word0 : IsI256 amount0)
    (word1 : IsI256 amount1) (liquidity : Nat) :
    volumePerLiquidityU256 liquidity amount0 amount1 = volume liquidity amount0 amount1 := by
  have bound : ∀ amount : Int, IsI256 amount → amount.natAbs < 2 ^ 256 := by
    intro amount word
    unfold IsI256 at word
    omega
  have root_lt : ∀ amount : Int, IsI256 amount → amount.natAbs.sqrt < 2 ^ 128 := by
    intro amount word
    exact Nat.sqrt_lt.mpr (lt_of_lt_of_eq (bound amount word) (by norm_num))
  have product_lt : amount0.natAbs.sqrt * amount1.natAbs.sqrt < 2 ^ 256 :=
    lt_of_lt_of_eq (Nat.mul_lt_mul'' (root_lt _ word0) (root_lt _ word1)) (by norm_num)
  rw [volumePerLiquidityU256, volume, integerSqrt_eq_sqrt (bound _ word0),
    integerSqrt_eq_sqrt (bound _ word1), Nat.mod_eq_of_lt product_lt]
  generalize amount0.natAbs.sqrt * amount1.natAbs.sqrt = product at product_lt ⊢
  simp only [Nat.shiftLeft_eq, Nat.one_mul]
  split
  · rename_i large
    have saturated : min (product * 2 ^ 64) (2 ^ 256 - 1) = 2 ^ 256 - 1 := min_eq_right (by omega)
    rw [saturated]
  · rename_i small
    have whole : min (product * 2 ^ 64) (2 ^ 256 - 1) = product * 2 ^ 64 := min_eq_left (by omega)
    rw [Nat.mod_eq_of_lt (by omega), whole]

/-- The square root is exact on every word of 256 bits, with no sum that wraps and no division by
zero on the way, and so both paths of the volume give the same value. -/
theorem square_root_and_volume_exact :
    (∀ value < 2 ^ 256, integerSqrt value = value.sqrt ∧ (0 < value →
      0 < sqrtSeed value ∧ sqrtSeed value < 2 ^ 256 ∧ ∀ n ≤ 7,
        0 < newtonRoot value n ∧ newtonRoot value n + value / newtonRoot value n < 2 ^ 256)) ∧
    ∀ liquidity ≠ 0, ∀ amount0 amount1, IsI256 amount0 → IsI256 amount1 →
      calculateVolumePerLiquidityNonzero liquidity amount0 amount1 =
        volumePerLiquidityU256 liquidity amount0 amount1 ∧
      calculateVolumePerLiquidityNonzero liquidity amount0 amount1 =
        volume liquidity amount0 amount1 := by
  constructor
  · intro value width
    refine ⟨integerSqrt_eq_sqrt width, fun positive => ?_⟩
    have tame := fun n => (newtonRoot_eq width positive n).2
    have seed : Tame value (sqrtSeed value) := tame 0
    refine ⟨seed.positive, by have := seed.root_le; omega, fun n _ => ⟨(tame n).positive, ?_⟩⟩
    have fits := Nat.add_le_add (tame n).root_le (tame n).quotient_le
    omega
  · intro liquidity _ amount0 amount1 word0 word1
    have slow := volumePerLiquidityU256_eq word0 word1 liquidity
    rw [slow, and_self]
    unfold calculateVolumePerLiquidityNonzero
    simp only
    split
    · rename_i fast
      have whole : min (amount0.natAbs.sqrt * amount1.natAbs.sqrt * 2 ^ 64) (2 ^ 256 - 1) =
          amount0.natAbs.sqrt * amount1.natAbs.sqrt * 2 ^ 64 := min_eq_left (by omega)
      rw [volume, Nat.shiftLeft_eq, Nat.shiftLeft_eq, whole]
    · exact slow

/-- At the largest value, and at the amounts of the largest magnitudes. -/
theorem square_root_and_volume_exact_extremes :
    integerSqrt (2 ^ 256 - 1) = Nat.sqrt (2 ^ 256 - 1) ∧
      calculateVolumePerLiquidityNonzero 1 (-2 ^ 255) (2 ^ 255 - 1) =
        volumePerLiquidityU256 1 (-2 ^ 255) (2 ^ 255 - 1) := by
  have lowest : IsI256 (-2 ^ 255) := ⟨le_refl _, by norm_num⟩
  have highest : IsI256 (2 ^ 255 - 1) := ⟨by norm_num, by norm_num⟩
  have largest : 2 ^ 256 - 1 < 2 ^ 256 := by norm_num
  exact ⟨(square_root_and_volume_exact.1 _ largest).1,
    (square_root_and_volume_exact.2 1 one_ne_zero _ _ lowest highest).1⟩

end PolyBot.Dex
