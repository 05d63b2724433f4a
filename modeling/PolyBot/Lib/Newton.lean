import Mathlib.Tactic.Linarith
import Mathlib.Tactic.Ring

/-!
# Newton's square root of a natural number

One step takes the mean of an estimate and the quotient by it, rounded down.  An estimate within a
known factor of the root becomes a much better one, and an estimate that has settled stays so: the
steps may alternate between the root and the number above it, but the smaller of such an estimate and
the quotient by it is the root.

* `Newton.sqrt_le_step`: a step never falls below the root.
* `Newton.Near.step`, `Newton.Near.run`: how much one step improves an estimate, and any number.
* `Newton.Settled.min_div`: what is read off a settled estimate.
-/

namespace Newton

def step (v x : Nat) : Nat :=
  (x + v / x) / 2

/-- The estimate is the root, or the number above it where the quotient by that is the root. -/
def Settled (v x : Nat) : Prop :=
  x = v.sqrt ∨ x = v.sqrt + 1 ∧ v.sqrt * (v.sqrt + 1) ≤ v

/-- The square of the estimate is within a factor of `1 + b / a`. -/
structure Near (a b v x : Nat) : Prop where
  above : a * (x * x) ≤ (a + b) * v
  below : a * v ≤ (a + b) * (x * x)

/-- What a step makes of the factor. -/
def sharpen (bound : Nat × Nat) : Nat × Nat :=
  (4 * bound.1 * (bound.1 + bound.2), bound.2 * bound.2)

variable {a b v x : Nat}

theorem step_mul_le (v x : Nat) : step v x * (2 * x) ≤ x * x + v := by
  have half : step v x * 2 ≤ x + v / x := Nat.div_mul_le_self ..
  have quotient : v / x * x ≤ v := Nat.div_mul_le_self ..
  nlinarith

theorem sqrt_le_step (positive : 0 < x) : v.sqrt ≤ step v x := by
  have half : x + v / x < step v x * 2 + 2 := Nat.lt_div_mul_add (by omega)
  have quotient : v < v / x * x + x := Nat.lt_div_mul_add positive
  have mean : x * x + v < 2 * x * (step v x + 1) := by nlinarith
  rw [← Nat.lt_succ_iff, Nat.sqrt_lt]
  change v < (step v x + 1) * (step v x + 1)
  by_contra above
  have square : (x * x + v) * (x * x + v) < 4 * (x * x) * v := by
    calc (x * x + v) * (x * x + v)
      _ < 2 * x * (step v x + 1) * (2 * x * (step v x + 1)) := Nat.mul_self_lt_mul_self mean
      _ = 4 * (x * x) * ((step v x + 1) * (step v x + 1)) := by ring
      _ ≤ 4 * (x * x) * v := Nat.mul_le_mul_left _ (Nat.not_lt.mp above)
  -- no product is above the square of the mean
  have means := two_mul_le_add_sq (x * x : ℤ) v
  zify at square
  nlinarith

theorem Settled.step (settled : Settled v x) (positive : 0 < v) : Settled v (step v x) := by
  have root : 0 < v.sqrt := Nat.sqrt_pos.mpr positive
  have low : v.sqrt * v.sqrt ≤ v := Nat.sqrt_le v
  have high : v ≤ v.sqrt * v.sqrt + v.sqrt + v.sqrt := Nat.sqrt_le_add v
  unfold Settled Newton.step at *
  generalize v.sqrt = s at *
  rcases settled with rfl | ⟨rfl, inside⟩
  · have above : x ≤ v / x := (Nat.le_div_iff_mul_le root).mpr low
    have below : v / x ≤ x + 2 := Nat.div_le_of_le_mul (by nlinarith)
    by_cases last : v / x = x + 2
    · have held := Nat.div_mul_le_self v x
      rw [last] at held ⊢
      exact Or.inr ⟨by omega, by nlinarith⟩
    · exact Or.inl (by omega)
  · have quotient : v / (s + 1) = s :=
      Nat.div_eq_of_lt_le inside (by nlinarith)
    rw [quotient]
    exact Or.inl (by omega)

theorem Settled.min_div (settled : Settled v x) (positive : 0 < v) : min x (v / x) = v.sqrt := by
  have root : 0 < v.sqrt := Nat.sqrt_pos.mpr positive
  have low : v.sqrt * v.sqrt ≤ v := Nat.sqrt_le v
  have high : v ≤ v.sqrt * v.sqrt + v.sqrt + v.sqrt := Nat.sqrt_le_add v
  unfold Settled at settled
  generalize v.sqrt = s at *
  rcases settled with rfl | ⟨rfl, inside⟩
  · exact min_eq_left ((Nat.le_div_iff_mul_le root).mpr low)
  · have quotient : v / (s + 1) = s := Nat.div_eq_of_lt_le inside (by nlinarith)
    rw [quotient]
    exact min_eq_right (by omega)

/-- A step settles an estimate or squares the precision it is known to have. -/
theorem Near.step (near : Near a b v x) (positive : 0 < x) :
    Settled v (step v x) ∨ Near (sharpen (a, b)).1 (sharpen (a, b)).2 v (step v x) := by
  by_cases passed : v < Newton.step v x * Newton.step v x
  · right
    have factor : a * (a + b) * ((x * x + v) * (x * x + v)) ≤
        (2 * a + b) * (2 * a + b) * v * (x * x) := by
      have above : (a * (x * x) : ℤ) ≤ (a + b) * v := by exact_mod_cast near.above
      have below : (a * v : ℤ) ≤ (a + b) * (x * x) := by exact_mod_cast near.below
      have product := mul_nonneg (sub_nonneg.mpr above) (sub_nonneg.mpr below)
      zify
      linarith
    have square := Nat.mul_self_le_mul_self (step_mul_le v x)
    have total : 4 * a * (a + b) + b * b = (2 * a + b) * (2 * a + b) := by ring
    refine ⟨?_, Nat.mul_le_mul (Nat.le_add_right ..) passed.le⟩
    apply Nat.le_of_mul_le_mul_right _ (Nat.mul_pos positive positive)
    simp only [sharpen, total]
    generalize Newton.step v x = next at square ⊢
    calc 4 * a * (a + b) * (next * next) * (x * x)
      _ = a * (a + b) * (next * (2 * x) * (next * (2 * x))) := by ring
      _ ≤ a * (a + b) * ((x * x + v) * (x * x + v)) := Nat.mul_le_mul_left _ square
      _ ≤ (2 * a + b) * (2 * a + b) * v * (x * x) := factor
  · left
    refine Or.inl (le_antisymm ?_ (sqrt_le_step positive))
    exact Nat.le_sqrt.mpr (Nat.not_lt.mp passed)

/-- An estimate of a number of `2 * n` bits that is near enough has settled. -/
theorem Near.settled {n : Nat} (near : Near a b v x) (width : v < 2 ^ n * 2 ^ n)
    (sharp : b * 2 ^ n < a) (least : v.sqrt ≤ x) : Settled v x := by
  by_cases passed : v < x * x
  · have root : v.sqrt + 1 ≤ 2 ^ n := Nat.sqrt_lt.mpr width
    have low : v.sqrt * v.sqrt ≤ v := Nat.sqrt_le v
    have high : v < (v.sqrt + 1) * (v.sqrt + 1) := Nat.lt_succ_sqrt v
    have above := near.above
    unfold Settled
    generalize v.sqrt = s at *
    have rest : b * v < a * (s + 1) := by
      calc b * v
        _ ≤ b * ((s + 1) * (s + 1)) := Nat.mul_le_mul_left b high.le
        _ ≤ b * 2 ^ n * (s + 1) := by rw [Nat.mul_assoc]; gcongr
        _ < a * (s + 1) := Nat.mul_lt_mul_of_pos_right sharp (by omega)
    have close : x * x ≤ v + s := by nlinarith
    have atLeast : s < x := by nlinarith
    have atMost : x < s + 2 := by nlinarith
    obtain rfl : x = s + 1 := by omega
    exact Or.inr ⟨rfl, by nlinarith⟩
  · exact Or.inl (le_antisymm (Nat.le_sqrt.mpr (Nat.not_lt.mp passed)) least)

/-- After any number of steps the estimate has settled or has the precision of that number. -/
theorem Near.run (bound : Nat × Nat) (near : Near bound.1 bound.2 v x) (positive : 0 < x)
    (nonzero : 0 < v) (n : Nat) : 0 < (Newton.step v)^[n] x ∧ (Settled v ((Newton.step v)^[n] x) ∨
      Near (sharpen^[n] bound).1 (sharpen^[n] bound).2 v ((Newton.step v)^[n] x)) := by
  induction n with
  | zero => exact ⟨positive, Or.inr near⟩
  | succ n ih =>
    rcases ih with ⟨positive, known⟩
    rw [Function.iterate_succ_apply', Function.iterate_succ_apply']
    refine ⟨lt_of_lt_of_le (Nat.sqrt_pos.mpr nonzero) (sqrt_le_step positive), ?_⟩
    rcases known with settled | near
    · exact Or.inl (settled.step nonzero)
    · exact near.step positive

end Newton
