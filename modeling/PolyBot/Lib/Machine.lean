import Mathlib.Tactic.Linarith

/-!
# Fixed-width integers

Unsigned machine integers are natural numbers and signed ones are integers; the width is an
argument of the operations that can leave it.  A checked operation returns nothing where its result
does not fit, a wrapping one reduces it, and a saturating one stops at the nearest end of the range.
-/

/-- `n` when it fits into `w` bits. -/
def checkedNat (w n : Nat) : Option Nat :=
  if n < 2 ^ w then some n else none

/-- `a + b` when it fits into `w` bits. -/
def checkedAdd (w a b : Nat) : Option Nat :=
  checkedNat w (a + b)

/-- `a * b` when it fits into `w` bits. -/
def checkedMul (w a b : Nat) : Option Nat :=
  checkedNat w (a * b)

/-- `a - b` when it is not negative. -/
def checkedSub (a b : Nat) : Option Nat :=
  if b ≤ a then some (a - b) else none

/-- `x` when it fits into a signed integer of `w` bits. -/
def checkedInt (w : Nat) (x : Int) : Option Int :=
  if -2 ^ (w - 1) ≤ x ∧ x < 2 ^ (w - 1) then some x else none

/-- The integer of `w` bits that is nearest to `x`. -/
def saturateInt (w : Nat) (x : Int) : Int :=
  max (-2 ^ (w - 1)) (min x (2 ^ (w - 1) - 1))

/-- `x` is an integer of `w` bits. -/
def FitsInt (w : Nat) (x : Int) : Prop :=
  -2 ^ (w - 1) ≤ x ∧ x ≤ 2 ^ (w - 1) - 1

/-- `n`, or the greatest number of `w` bits when it does not fit. -/
def saturateNat (w n : Nat) : Nat :=
  min n (2 ^ w - 1)

/-- `a - b` modulo `2 ^ w`. -/
def wrappingSub (w a b : Nat) : Nat :=
  (a + (2 ^ w - b % 2 ^ w)) % 2 ^ w

/-- The signed integer of `w` bits that is congruent to `x`. -/
def wrappingInt (w : Nat) (x : Int) : Int :=
  x.bmod (2 ^ w)

variable {w a b c : Nat} {x : Int}

theorem checkedNat_eq_some {n m : Nat} : checkedNat w n = some m ↔ n < 2 ^ w ∧ m = n := by
  unfold checkedNat
  split <;> simp_all [eq_comm]

theorem checkedInt_eq_some {y : Int} :
    checkedInt w x = some y ↔ (-2 ^ (w - 1) ≤ x ∧ x < 2 ^ (w - 1)) ∧ y = x := by
  unfold checkedInt
  split <;> simp_all [eq_comm]

theorem checkedAdd_eq_some : checkedAdd w a b = some c ↔ a + b < 2 ^ w ∧ c = a + b := by
  rw [checkedAdd, checkedNat_eq_some]

theorem checkedAdd_eq_none : checkedAdd w a b = none ↔ 2 ^ w ≤ a + b := by
  unfold checkedAdd checkedNat
  split <;> simp_all

theorem checkedMul_eq_some : checkedMul w a b = some c ↔ a * b < 2 ^ w ∧ c = a * b := by
  rw [checkedMul, checkedNat_eq_some]

theorem checkedSub_eq_some : checkedSub a b = some c ↔ b ≤ a ∧ c = a - b := by
  unfold checkedSub
  split <;> simp_all [eq_comm]

/-! ## Sums that do not saturate -/

theorem saturateInt_of_fits (fits : FitsInt w x) : saturateInt w x = x := by
  rw [saturateInt, min_eq_left fits.2, max_eq_right fits.1]

theorem foldl_saturateInt (values : List Int) (start : Int)
    (fits : ∀ k, FitsInt w (start + (values.take k).sum)) :
    values.foldl (fun total value => saturateInt w (total + value)) start = start + values.sum := by
  induction values generalizing start with
  | nil => simp
  | cons value rest ih =>
    have first : FitsInt w (start + value) := by simpa using fits 1
    have others : ∀ k, FitsInt w (start + value + (rest.take k).sum) := by
      intro k
      simpa [Int.add_assoc] using fits (k + 1)
    rw [List.foldl_cons, saturateInt_of_fits first, ih (start + value) others, List.sum_cons,
      Int.add_assoc]

theorem foldl_saturateNat (values : List Nat) (start : Nat) (fits : start + values.sum < 2 ^ w) :
    values.foldl (fun total value => saturateNat w (total + value)) start = start + values.sum := by
  induction values generalizing start with
  | nil => simp
  | cons value rest ih =>
    rw [List.sum_cons] at fits
    have first : saturateNat w (start + value) = start + value := by
      rw [saturateNat]
      omega
    rw [List.foldl_cons, first, ih (start + value) (by omega), List.sum_cons, Nat.add_assoc]
