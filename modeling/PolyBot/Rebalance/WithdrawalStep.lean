import Mathlib.Tactic.FieldSimp
import PolyBot.Rebalance.Keys

/-!
# The step of a withdrawal

A venue takes a withdrawal in multiples of a decimal increment, and a withdrawal is made in base
units of its token.  The step is the increment in base units, or the first of its multiples that is
a whole number of them.

* `decimalMultipleToBaseUnitStep`: the two copies of the function, which differ in their messages.
* `withdrawal_step_is_least`: the step is the least amount that is a multiple of the increment, and
  every other is a multiple of it.
-/

namespace PolyBot.Rebalance

open PolyBot.Opportunity (Decimal)

def u256Gcd (left right : Nat) : Nat :=
  if right = 0 then left else u256Gcd right (left % right)
termination_by right
decreasing_by exact Nat.mod_lt _ (Nat.pos_of_ne_zero ‹_›)

theorem u256Gcd_eq (left right : Nat) : u256Gcd left right = Nat.gcd left right := by
  fun_induction u256Gcd left right with
  | case1 left => exact (Nat.gcd_zero_right left).symm
  | case2 left right nonzero ih => rw [ih, Nat.gcd_comm, ← Nat.gcd_rec, Nat.gcd_comm]

/-- The step of an increment, with the messages of its caller. -/
def baseUnitStep (negative overflow : String) (value : Decimal) (decimals : Nat) :
    Except String Nat := do
  require (0 ≤ value.mantissa) negative
  if value.mantissa = 0 then return 1
  let scale ← pow10 decimals
  let numerator ← orError (checkedMul 256 value.mantissa.toNat scale) overflow
  let denominator ← pow10 value.scale
  return numerator / u256Gcd numerator denominator

/-- The copy in the tracker of pending transfers. -/
def Tracker.decimalMultipleToBaseUnitStep : Decimal → Nat → Except String Nat :=
  baseUnitStep "decimal multiple must not be negative"
    "decimal multiple base-unit numerator overflow"

/-- The copy in the runtime. -/
def Runtime.decimalMultipleToBaseUnitStep : Decimal → Nat → Except String Nat :=
  baseUnitStep "decimal multiple is negative" "decimal multiple base-unit overflow"

/-- An increment in base units. -/
def increment (value : Decimal) (decimals : Nat) : ℚ :=
  value.mantissa / 10 ^ value.scale * 10 ^ decimals

/-- An amount in base units that is a multiple of the increment. -/
def IsMultiple (value : Decimal) (decimals amount : Nat) : Prop :=
  ∃ k : ℤ, (amount : ℚ) = k * increment value decimals

variable {value : Decimal} {decimals amount step : Nat} {negative overflow : String}

theorem pow10_eq_ok {exponent power : Nat} (computed : pow10 exponent = .ok power) :
    power = 10 ^ exponent :=
  (checkedNat_eq_some.mp (orError_eq_ok.mp computed)).2

/-- The multiples of a fraction among the whole numbers. -/
theorem isMultiple_iff (positive : 0 < value.mantissa) :
    IsMultiple value decimals amount ↔
      value.mantissa.toNat * 10 ^ decimals ∣ 10 ^ value.scale * amount := by
  have mantissa := Int.toNat_of_nonneg positive.le
  rw [← Int.natCast_dvd_natCast]
  apply exists_congr
  intro k
  rw [increment, div_mul_eq_mul_div, mul_div_assoc', eq_div_iff (by positivity)]
  push_cast
  rw [mantissa, mul_comm (10 ^ value.scale) (amount : ℤ), mul_comm _ k]
  norm_cast

theorem baseUnitStep_eq_ok (returned : baseUnitStep negative overflow value decimals = .ok step)
    (nonzero : value.mantissa ≠ 0) :
    0 < step ∧ ∀ amount, IsMultiple value decimals amount ↔ step ∣ amount := by
  simp only [baseUnitStep, bind_eq_ok, require_eq_ok, if_neg nonzero, orError_eq_ok,
    checkedMul_eq_some, pure_eq_ok] at returned
  obtain ⟨-, nonneg, scale, power, numerator, ⟨-, rfl⟩, denominator, power', rfl⟩ := returned
  have positive : 0 < value.mantissa := by omega
  have whole : 0 < value.mantissa.toNat * 10 ^ decimals := by
    have mantissa : 0 < value.mantissa.toNat := by omega
    positivity
  rw [pow10_eq_ok power, pow10_eq_ok power', u256Gcd_eq]
  have divides := Nat.gcd_dvd_left (value.mantissa.toNat * 10 ^ decimals) (10 ^ value.scale)
  have common := Nat.pos_of_dvd_of_pos divides whole
  refine ⟨Nat.div_pos (Nat.le_of_dvd whole divides) common, ?_⟩
  intro amount
  rw [isMultiple_iff positive, Nat.div_dvd_iff_dvd_mul divides common,
    Nat.dvd_gcd_mul_iff_dvd_mul]

/-- An increment of zero asks for nothing.  Of any other, the step that either copy returns is the
least positive amount that is a multiple, and the multiples of the increment are its multiples. -/
theorem withdrawal_step_is_least
    (returned : Tracker.decimalMultipleToBaseUnitStep value decimals = .ok step ∨
      Runtime.decimalMultipleToBaseUnitStep value decimals = .ok step) :
    (value.mantissa = 0 → step = 1) ∧
    (value.mantissa ≠ 0 →
      IsLeast {amount | 0 < amount ∧ IsMultiple value decimals amount} step ∧
      ∀ amount, IsMultiple value decimals amount ↔ step ∣ amount) := by
  obtain ⟨negative, overflow, computed⟩ :
      ∃ negative overflow, baseUnitStep negative overflow value decimals = .ok step := by
    rcases returned with tracker | runtime
    · exact ⟨_, _, tracker⟩
    · exact ⟨_, _, runtime⟩
  constructor
  · intro zero
    simp only [baseUnitStep, bind_eq_ok, if_pos zero, pure_eq_ok] at computed
    exact computed.choose_spec.2.symm
  · intro nonzero
    obtain ⟨positive, multiples⟩ := baseUnitStep_eq_ok computed nonzero
    refine ⟨⟨⟨positive, (multiples step).mpr dvd_rfl⟩, ?_⟩, multiples⟩
    rintro amount ⟨positive', multiple⟩
    exact Nat.le_of_dvd positive' ((multiples amount).mp multiple)

theorem three_le_maximumScale : 3 ≤ 28 := by decide

/-- An increment of two and a half base units. -/
def twoAndAHalf : Decimal := ⟨25, 3, by decide, three_le_maximumScale⟩

theorem withdrawal_step_of_two_and_a_half :
    IsLeast {amount | 0 < amount ∧ IsMultiple twoAndAHalf 2 amount} 5 := by
  have computed : Tracker.decimalMultipleToBaseUnitStep twoAndAHalf 2 = .ok 5 := by
    unfold Tracker.decimalMultipleToBaseUnitStep baseUnitStep
    simp only [u256Gcd_eq]
    rfl
  exact ((withdrawal_step_is_least (.inl computed)).2 (by decide)).1

end PolyBot.Rebalance
