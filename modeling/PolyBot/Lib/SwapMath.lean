import PolyBot.Lib.Machine
import Mathlib.Tactic.Ring

/-!
# One step of a swap

The reference library's step of a swap inside one range of prices: from the current price towards a
target, at constant liquidity, with an exact input or an exact output.  Every division rounds against
the swapper.  A result of `none` is a revert of the library.

The amounts of a range are also given as plain numbers, and the rounded divisions in them are used
only through the inequalities they stand for.

* `SwapMath.computeSwapStep_input_full`, `SwapMath.computeSwapStep_input_part`: an exact input
  reaches the target when it covers the whole cost of the range, and is spent exactly otherwise.
* `SwapMath.computeSwapStep_output_full`, `SwapMath.computeSwapStep_output_part`: an exact output
  costs the whole range when it asks for all of it, and is produced exactly otherwise.
-/

namespace SwapMath

/-! ## The functions of the library -/

def divRoundingUp (x y : Nat) : Nat :=
  x / y + if x % y = 0 then 0 else 1

def mulDiv (a b denominator : Nat) : Option Nat :=
  if denominator = 0 then none else checkedNat 256 (a * b / denominator)

def mulDivRoundingUp (a b denominator : Nat) : Option Nat :=
  if denominator = 0 then none else checkedNat 256 (divRoundingUp (a * b) denominator)

/-- The amount of the first token between two prices. -/
def getAmount0Delta (ratioA ratioB liquidity : Nat) (roundUp : Bool) : Option Nat :=
  let lower := min ratioA ratioB
  let upper := max ratioA ratioB
  if lower = 0 then none
  else if roundUp then
    (mulDivRoundingUp (liquidity * 2 ^ 96) (upper - lower) upper).map (divRoundingUp · lower)
  else (mulDiv (liquidity * 2 ^ 96) (upper - lower) upper).map (· / lower)

/-- The amount of the second token between two prices. -/
def getAmount1Delta (ratioA ratioB liquidity : Nat) (roundUp : Bool) : Option Nat :=
  let difference := max ratioA ratioB - min ratioA ratioB
  if roundUp then mulDivRoundingUp liquidity difference (2 ^ 96)
  else mulDiv liquidity difference (2 ^ 96)

/-- The price after an amount of the first token is added or removed. -/
def getNextSqrtPriceFromAmount0RoundingUp (sqrtPrice liquidity amount : Nat) (add : Bool) :
    Option Nat :=
  if amount = 0 then some sqrtPrice
  else
    let numerator := liquidity * 2 ^ 96
    let product := amount * sqrtPrice
    if add then
      if product < 2 ^ 256 ∧ numerator + product < 2 ^ 256 then
        mulDivRoundingUp numerator sqrtPrice (numerator + product)
      else some (divRoundingUp numerator (numerator / sqrtPrice + amount))
    else if product < 2 ^ 256 ∧ product < numerator then
      (mulDivRoundingUp numerator sqrtPrice (numerator - product)).bind (checkedNat 160)
    else none

/-- The price after an amount of the second token is added or removed. -/
def getNextSqrtPriceFromAmount1RoundingDown (sqrtPrice liquidity amount : Nat) (add : Bool) :
    Option Nat :=
  if add then
    (mulDiv amount (2 ^ 96) liquidity).bind fun quotient => checkedNat 160 (sqrtPrice + quotient)
  else
    (mulDivRoundingUp amount (2 ^ 96) liquidity).bind fun quotient =>
      if quotient < sqrtPrice then some (sqrtPrice - quotient) else none

def getNextSqrtPriceFromInput (sqrtPrice liquidity amountIn : Nat) (zeroForOne : Bool) :
    Option Nat :=
  if sqrtPrice = 0 ∨ liquidity = 0 then none
  else if zeroForOne then getNextSqrtPriceFromAmount0RoundingUp sqrtPrice liquidity amountIn true
  else getNextSqrtPriceFromAmount1RoundingDown sqrtPrice liquidity amountIn true

def getNextSqrtPriceFromOutput (sqrtPrice liquidity amountOut : Nat) (zeroForOne : Bool) :
    Option Nat :=
  if sqrtPrice = 0 ∨ liquidity = 0 then none
  else if zeroForOne then getNextSqrtPriceFromAmount1RoundingDown sqrtPrice liquidity amountOut false
  else getNextSqrtPriceFromAmount0RoundingUp sqrtPrice liquidity amountOut false

structure SwapStep where
  sqrtRatioNext : Nat
  amountIn : Nat
  amountOut : Nat
  feeAmount : Nat
  deriving DecidableEq

/-- The input between two prices, rounded up. -/
def inputDelta (zeroForOne : Bool) (current next liquidity : Nat) : Option Nat :=
  if zeroForOne then getAmount0Delta next current liquidity true
  else getAmount1Delta current next liquidity true

/-- The output between two prices, rounded down. -/
def outputDelta (zeroForOne : Bool) (current next liquidity : Nat) : Option Nat :=
  if zeroForOne then getAmount1Delta next current liquidity false
  else getAmount0Delta current next liquidity false

/-- The direction of a step is read off its two prices: whether it sells the first token. -/
def direction (current target : Nat) : Bool :=
  decide (target ≤ current)

/-- The step for an exact input. -/
def exactInputStep (current target liquidity remaining feePips : Nat) : Option SwapStep := do
  let zeroForOne := direction current target
  let amountRemainingLessFee ← mulDiv remaining (1000000 - feePips) 1000000
  let fullIn ← inputDelta zeroForOne current target liquidity
  let next ←
    if fullIn ≤ amountRemainingLessFee then some target
    else getNextSqrtPriceFromInput current liquidity amountRemainingLessFee zeroForOne
  let amountIn ← if next = target then some fullIn else inputDelta zeroForOne current next liquidity
  let amountOut ← outputDelta zeroForOne current next liquidity
  let feeAmount ←
    if next = target then mulDivRoundingUp amountIn feePips (1000000 - feePips)
    else some (remaining - amountIn)
  return ⟨next, amountIn, amountOut, feeAmount⟩

/-- The step for an exact output; the output is capped at what remains. -/
def exactOutputStep (current target liquidity remaining feePips : Nat) : Option SwapStep := do
  let zeroForOne := direction current target
  let fullOut ← outputDelta zeroForOne current target liquidity
  let next ←
    if fullOut ≤ remaining then some target
    else getNextSqrtPriceFromOutput current liquidity remaining zeroForOne
  let amountIn ← inputDelta zeroForOne current next liquidity
  let amountOut ←
    if next = target then some fullOut else outputDelta zeroForOne current next liquidity
  let feeAmount ← mulDivRoundingUp amountIn feePips (1000000 - feePips)
  return ⟨next, amountIn, min amountOut remaining, feeAmount⟩

/-- A non-negative amount is an exact input and a negative one an exact output. -/
def computeSwapStep (current target liquidity : Nat) (amountRemaining : Int) (feePips : Nat) :
    Option SwapStep :=
  if 0 ≤ amountRemaining then
    exactInputStep current target liquidity amountRemaining.toNat feePips
  else exactOutputStep current target liquidity (-amountRemaining).toNat feePips

/-! ## Division that rounds up -/

variable {c x y a b d : Nat}

theorem divRoundingUp_le_iff (positive : 0 < y) : divRoundingUp x y ≤ c ↔ x ≤ c * y := by
  have division := Nat.div_add_mod x y
  have remainder := Nat.mod_lt x positive
  unfold divRoundingUp
  constructor
  · intro le
    have grown := Nat.mul_le_mul_right y le
    split at grown <;> nlinarith
  · intro le
    by_contra less
    have grown := Nat.mul_le_mul_right y (Nat.succ_le_of_lt (Nat.lt_of_not_le less))
    split at grown <;> rename_i rest
    · nlinarith
    · have nonzero : 0 < x % y := Nat.pos_of_ne_zero rest
      nlinarith

theorem lt_divRoundingUp_iff (positive : 0 < y) : c < divRoundingUp x y ↔ c * y < x := by
  rw [← Nat.not_le, ← Nat.not_le, not_iff_not]
  exact divRoundingUp_le_iff positive

theorem le_divRoundingUp_mul (x : Nat) (positive : 0 < y) : x ≤ divRoundingUp x y * y :=
  (divRoundingUp_le_iff positive).mp le_rfl

theorem mulDiv_eq (positive : 0 < d) (fits : a * b / d < 2 ^ 256) :
    mulDiv a b d = some (a * b / d) := by
  rw [mulDiv, if_neg positive.ne']
  exact checkedNat_eq_some.mpr ⟨fits, rfl⟩

theorem mulDivRoundingUp_eq (positive : 0 < d) (fits : divRoundingUp (a * b) d < 2 ^ 256) :
    mulDivRoundingUp a b d = some (divRoundingUp (a * b) d) := by
  rw [mulDivRoundingUp, if_neg positive.ne']
  exact checkedNat_eq_some.mpr ⟨fits, rfl⟩

/-! ## The amounts of a range as numbers -/

/-- The input between two prices, rounded up. -/
def amountIn (zeroForOne : Bool) (current next liquidity : Nat) : Nat :=
  if zeroForOne then
    divRoundingUp (divRoundingUp (liquidity * 2 ^ 96 * (current - next)) current) next
  else divRoundingUp (liquidity * (next - current)) (2 ^ 96)

/-- The output between two prices, rounded down. -/
def amountOut (zeroForOne : Bool) (current next liquidity : Nat) : Nat :=
  if zeroForOne then liquidity * (current - next) / 2 ^ 96
  else liquidity * 2 ^ 96 * (next - current) / next / current

/-- The fee on an input that is spent whole. -/
def feeOn (amount feePips : Nat) : Nat :=
  divRoundingUp (amount * feePips) (1000000 - feePips)

/-- `next` lies from `current` on in the direction of the swap. -/
def Towards (zeroForOne : Bool) (current next : Nat) : Prop :=
  if zeroForOne then next ≤ current else current ≤ next

/-- Prices and a liquidity that fit the library's types. -/
structure Priced (current next liquidity : Nat) : Prop where
  current_pos : 0 < current
  current_lt : current < 2 ^ 160
  next_pos : 0 < next
  next_lt : next < 2 ^ 160
  liquidity_lt : liquidity < 2 ^ 128

section Amounts

variable {zeroForOne : Bool} {current next liquidity c : Nat}

theorem amountIn_down_le_iff (priced : Priced current next liquidity) :
    amountIn true current next liquidity ≤ c ↔
      liquidity * 2 ^ 96 * (current - next) ≤ c * next * current := by
  rw [amountIn, if_pos rfl, divRoundingUp_le_iff priced.next_pos,
    divRoundingUp_le_iff priced.current_pos]

theorem amountIn_up_le_iff :
    amountIn false current next liquidity ≤ c ↔ liquidity * (next - current) ≤ c * 2 ^ 96 := by
  rw [amountIn, if_neg Bool.false_ne_true, divRoundingUp_le_iff (by positivity)]

theorem le_amountOut_down_iff :
    c ≤ amountOut true current next liquidity ↔ c * 2 ^ 96 ≤ liquidity * (current - next) := by
  rw [amountOut, if_pos rfl, Nat.le_div_iff_mul_le (by positivity)]

section

variable (priced : Priced current next liquidity)
include priced

theorem le_amountOut_up_iff :
    c ≤ amountOut false current next liquidity ↔
      c * current * next ≤ liquidity * 2 ^ 96 * (next - current) := by
  rw [amountOut, if_neg Bool.false_ne_true, Nat.le_div_iff_mul_le priced.current_pos,
    Nat.le_div_iff_mul_le priced.next_pos]

/-- The higher the lower price, the less a range takes. -/
theorem amountIn_le {low bound : Nat} (le : low ≤ next) (product : low * bound = 2 ^ 224)
    (large : 2 ^ 192 ≤ bound) : amountIn zeroForOne current next liquidity ≤ bound := by
  have liquidity_lt := priced.liquidity_lt
  cases zeroForOne with
  | true =>
    rw [amountIn_down_le_iff priced]
    calc liquidity * 2 ^ 96 * (current - next)
        ≤ 2 ^ 128 * 2 ^ 96 * current :=
          Nat.mul_le_mul (Nat.mul_le_mul_right _ liquidity_lt.le) (Nat.sub_le ..)
      _ = bound * low * current := by rw [Nat.mul_comm bound, product, ← Nat.pow_add]
      _ ≤ bound * next * current := by gcongr
  | false =>
    rw [amountIn_up_le_iff]
    calc liquidity * (next - current)
        ≤ 2 ^ 128 * 2 ^ 160 :=
          Nat.mul_le_mul liquidity_lt.le ((Nat.sub_le ..).trans priced.next_lt.le)
      _ = 2 ^ 192 * 2 ^ 96 := by norm_num
      _ ≤ bound * 2 ^ 96 := by gcongr

theorem amountIn_lt : amountIn zeroForOne current next liquidity < 2 ^ 225 :=
  lt_of_le_of_lt (amountIn_le priced priced.next_pos (Nat.one_mul _) (by norm_num)) (by norm_num)

theorem amountOut_lt : amountOut zeroForOne current next liquidity < 2 ^ 225 := by
  obtain ⟨current_pos, current_lt, next_pos, next_lt, liquidity_lt⟩ := priced
  cases zeroForOne with
  | true =>
    rw [amountOut, if_pos rfl, Nat.div_lt_iff_lt_mul (by positivity)]
    calc liquidity * (current - next)
        ≤ 2 ^ 128 * 2 ^ 160 := Nat.mul_le_mul liquidity_lt.le (by omega)
      _ < 2 ^ 225 * 2 ^ 96 := by norm_num
  | false =>
    rw [amountOut, if_neg Bool.false_ne_true]
    refine lt_of_le_of_lt (Nat.div_le_self ..) ?_
    rw [Nat.div_lt_iff_lt_mul next_pos]
    calc liquidity * 2 ^ 96 * (next - current)
        ≤ 2 ^ 128 * 2 ^ 96 * next :=
          Nat.mul_le_mul (Nat.mul_le_mul_right _ liquidity_lt.le) (Nat.sub_le ..)
      _ = 2 ^ 224 * next := by ring
      _ < 2 ^ 225 * next := by gcongr <;> norm_num

end

/-- The product in the amounts of the first token, divided by the higher price. -/
theorem numerator_lt {difference upper : Nat} (positive : 0 < upper) (le : difference ≤ upper)
    (liquidity_lt : liquidity < 2 ^ 128) :
    divRoundingUp (liquidity * 2 ^ 96 * difference) upper < 2 ^ 256 := by
  have small : divRoundingUp (liquidity * 2 ^ 96 * difference) upper ≤ 2 ^ 224 := by
    rw [divRoundingUp_le_iff positive]
    calc liquidity * 2 ^ 96 * difference
        ≤ 2 ^ 128 * 2 ^ 96 * upper := Nat.mul_le_mul (Nat.mul_le_mul_right _ liquidity_lt.le) le
      _ = 2 ^ 224 * upper := by ring
  omega

theorem div_le_divRoundingUp (x y : Nat) : x / y ≤ divRoundingUp x y :=
  Nat.le_add_right ..

section

variable (priced : Priced current next liquidity)
include priced

theorem inputDelta_eq (towards : Towards zeroForOne current next) :
    inputDelta zeroForOne current next liquidity =
      some (amountIn zeroForOne current next liquidity) := by
  have small : amountIn zeroForOne current next liquidity < 2 ^ 225 := amountIn_lt priced
  cases zeroForOne with
  | true =>
    have le : next ≤ current := towards
    have fits := numerator_lt priced.current_pos (Nat.sub_le current next) priced.liquidity_lt
    rw [inputDelta, if_pos rfl, getAmount0Delta, min_eq_left le, max_eq_right le,
      if_neg priced.next_pos.ne', if_pos rfl, mulDivRoundingUp_eq priced.current_pos fits]
    rfl
  | false =>
    have le : current ≤ next := towards
    have fits : divRoundingUp (liquidity * (next - current)) (2 ^ 96) < 2 ^ 256 :=
      lt_trans small (by norm_num)
    rw [inputDelta, if_neg Bool.false_ne_true, getAmount1Delta, min_eq_left le, max_eq_right le,
      if_pos rfl, mulDivRoundingUp_eq (by positivity) fits]
    rfl

theorem outputDelta_eq (towards : Towards zeroForOne current next) :
    outputDelta zeroForOne current next liquidity =
      some (amountOut zeroForOne current next liquidity) := by
  have small : amountOut zeroForOne current next liquidity < 2 ^ 225 := amountOut_lt priced
  cases zeroForOne with
  | true =>
    have le : next ≤ current := towards
    have fits : liquidity * (current - next) / 2 ^ 96 < 2 ^ 256 := lt_trans small (by norm_num)
    rw [outputDelta, if_pos rfl, getAmount1Delta, min_eq_left le, max_eq_right le,
      if_neg Bool.false_ne_true, mulDiv_eq (by positivity) fits]
    rfl
  | false =>
    have le : current ≤ next := towards
    have fits := lt_of_le_of_lt (div_le_divRoundingUp _ next)
      (numerator_lt priced.next_pos (Nat.sub_le next current) priced.liquidity_lt)
    rw [outputDelta, if_neg Bool.false_ne_true, getAmount0Delta, min_eq_left le, max_eq_right le,
      if_neg priced.current_pos.ne', if_neg Bool.false_ne_true, mulDiv_eq priced.next_pos fits]
    rfl

/-- The input grows with the distance. -/
theorem amountIn_mono {further : Nat} (priced' : Priced current further liquidity)
    (towards : Towards zeroForOne next further) :
    amountIn zeroForOne current next liquidity ≤ amountIn zeroForOne current further liquidity := by
  cases zeroForOne with
  | true =>
    have le : further ≤ next := towards
    have whole := (amountIn_down_le_iff priced').mp le_rfl
    rw [amountIn_down_le_iff priced]
    calc liquidity * 2 ^ 96 * (current - next)
        ≤ liquidity * 2 ^ 96 * (current - further) := by gcongr
      _ ≤ amountIn true current further liquidity * further * current := whole
      _ ≤ amountIn true current further liquidity * next * current := by gcongr
  | false =>
    have le : next ≤ further := towards
    have whole : liquidity * (further - current) ≤
        amountIn false current further liquidity * 2 ^ 96 := amountIn_up_le_iff.mp le_rfl
    rw [amountIn_up_le_iff]
    calc liquidity * (next - current)
        ≤ liquidity * (further - current) := by gcongr
      _ ≤ amountIn false current further liquidity * 2 ^ 96 := whole

/-- A range that costs nothing holds nothing. -/
theorem amountOut_eq_zero (free : amountIn zeroForOne current next liquidity = 0) :
    amountOut zeroForOne current next liquidity = 0 := by
  cases zeroForOne with
  | true =>
    have zero := (amountIn_down_le_iff priced).mp free.le
    rw [Nat.zero_mul, Nat.zero_mul, Nat.le_zero, Nat.mul_assoc, Nat.mul_comm (2 ^ 96),
      ← Nat.mul_assoc] at zero
    have empty : liquidity * (current - next) = 0 := by
      rcases Nat.mul_eq_zero.mp zero with empty | impossible
      · exact empty
      · norm_num at impossible
    rw [amountOut, if_pos rfl, empty, Nat.zero_div]
  | false =>
    have zero := (amountIn_up_le_iff (c := 0)).mp free.le
    rw [Nat.zero_mul, Nat.le_zero] at zero
    have empty : liquidity * 2 ^ 96 * (next - current) = 0 := by
      rw [Nat.mul_right_comm, zero, Nat.zero_mul]
    rw [amountOut, if_neg Bool.false_ne_true, empty, Nat.zero_div, Nat.zero_div]

end

end Amounts

/-! ## Fees -/

section Fees

variable {amount remaining feePips : Nat}

section

variable (fee_lt : feePips < 1000000)
include fee_lt

/-- An input is enough after the fee exactly when it covers the amount and the fee on it. -/
theorem le_lessFee_iff :
    amount ≤ remaining * (1000000 - feePips) / 1000000 ↔ amount + feeOn amount feePips ≤ remaining := by
  have split : amount * feePips + amount * (1000000 - feePips) = amount * 1000000 := by
    rw [← Nat.mul_add]
    congr 1
    omega
  rw [Nat.le_div_iff_mul_le (by omega)]
  constructor
  · intro covered
    have le : amount ≤ remaining := by
      have cut : remaining * (1000000 - feePips) ≤ remaining * 1000000 :=
        Nat.mul_le_mul_left remaining (Nat.sub_le ..)
      omega
    have fee : feeOn amount feePips ≤ remaining - amount := by
      rw [feeOn, divRoundingUp_le_iff (by omega), Nat.sub_mul]
      omega
    omega
  · intro covered
    have fee : feeOn amount feePips ≤ remaining - amount := by omega
    rw [feeOn, divRoundingUp_le_iff (by omega), Nat.sub_mul] at fee
    have grown : amount * (1000000 - feePips) ≤ remaining * (1000000 - feePips) :=
      Nat.mul_le_mul_right _ (by omega)
    omega

theorem feeOn_mono {amount' : Nat} (le : amount ≤ amount') :
    feeOn amount feePips ≤ feeOn amount' feePips := by
  rw [feeOn, divRoundingUp_le_iff (by omega)]
  exact (Nat.mul_le_mul_right feePips le).trans (le_divRoundingUp_mul _ (by omega))

theorem feeOn_le (amount : Nat) : feeOn amount feePips ≤ amount * 1000000 := by
  rw [feeOn, divRoundingUp_le_iff (by omega)]
  calc amount * feePips
      ≤ amount * 1000000 * 1 := by rw [Nat.mul_one]; gcongr
    _ ≤ amount * 1000000 * (1000000 - feePips) := by gcongr; omega

theorem feeOn_lt (small : amount < 2 ^ 225) : feeOn amount feePips < 2 ^ 245 := by
  have le := feeOn_le fee_lt amount
  omega

theorem mulDivRoundingUp_fee (small : amount < 2 ^ 225) :
    mulDivRoundingUp amount feePips (1000000 - feePips) = some (feeOn amount feePips) :=
  mulDivRoundingUp_eq (by omega) (lt_trans (feeOn_lt fee_lt small) (by norm_num))

end

theorem mulDiv_lessFee (bounded : remaining < 2 ^ 256) :
    mulDiv remaining (1000000 - feePips) 1000000 =
      some (remaining * (1000000 - feePips) / 1000000) := by
  apply mulDiv_eq (by omega)
  have cut : remaining * (1000000 - feePips) ≤ remaining * 1000000 :=
    Nat.mul_le_mul_left remaining (Nat.sub_le ..)
  omega

end Fees

/-! ## The price reached inside a range -/

section Prices

variable {zeroForOne : Bool} {current target liquidity amount : Nat}

/-- What is reached by less input than the range takes: a price short of the target, for no more
than the amount. -/
structure ShortOf (zeroForOne : Bool) (current target liquidity amount next : Nat) : Prop where
  forward : Towards zeroForOne current next
  short : Towards zeroForOne next target
  ne : next ≠ target
  spent : amountIn zeroForOne current next liquidity ≤ amount

section

variable (priced : Priced current target liquidity)
include priced

/-- Both formulas for the price after an amount of the first token give at least the exact price, and
the exact price lies above the target. -/
theorem shortOf_down {next : Nat} (le : next ≤ current)
    (enough : liquidity * 2 ^ 96 * current ≤ next * (liquidity * 2 ^ 96 + amount * current))
    (less : amount < amountIn true current target liquidity) :
    ShortOf true current target liquidity amount next := by
  have below : amount * target * current < liquidity * 2 ^ 96 * (current - target) := by
    rw [← Nat.not_le, ← amountIn_down_le_iff priced]
    omega
  have above : target < next := by
    by_contra atMost
    have grown : next * (liquidity * 2 ^ 96 + amount * current) ≤
        target * (liquidity * 2 ^ 96 + amount * current) :=
      Nat.mul_le_mul_right _ (Nat.not_lt.mp atMost)
    have expand : target * (liquidity * 2 ^ 96 + amount * current) =
        liquidity * 2 ^ 96 * target + amount * target * current := by ring
    rw [Nat.mul_sub] at below
    omega
  have priced' : Priced current next liquidity :=
    ⟨priced.current_pos, priced.current_lt, by omega, by have := priced.current_lt; omega,
      priced.liquidity_lt⟩
  refine ⟨le, above.le, above.ne', ?_⟩
  rw [amountIn_down_le_iff priced', Nat.mul_sub]
  have expand : next * (liquidity * 2 ^ 96 + amount * current) =
      liquidity * 2 ^ 96 * next + amount * next * current := by ring
  omega

theorem nextPrice_input_down (less : amount < amountIn true current target liquidity) :
    ∃ next, getNextSqrtPriceFromAmount0RoundingUp current liquidity amount true = some next ∧
      ShortOf true current target liquidity amount next := by
  unfold getNextSqrtPriceFromAmount0RoundingUp
  split
  · rename_i zero
    refine ⟨current, rfl, shortOf_down priced le_rfl ?_ less⟩
    rw [zero, Nat.zero_mul, Nat.add_zero, Nat.mul_comm]
  · rename_i nonzero
    rw [if_pos rfl]
    split
    · -- the products fit: one full-width division
      have positive : 0 < liquidity * 2 ^ 96 + amount * current :=
        Nat.add_pos_right _ (Nat.mul_pos (Nat.pos_of_ne_zero nonzero) priced.current_pos)
      have le : divRoundingUp (liquidity * 2 ^ 96 * current)
          (liquidity * 2 ^ 96 + amount * current) ≤ current := by
        rw [divRoundingUp_le_iff positive, Nat.mul_comm]
        exact Nat.mul_le_mul_left current (Nat.le_add_right ..)
      have fits : divRoundingUp (liquidity * 2 ^ 96 * current)
          (liquidity * 2 ^ 96 + amount * current) < 2 ^ 256 :=
        lt_of_le_of_lt le (priced.current_lt.trans (by norm_num))
      refine ⟨_, mulDivRoundingUp_eq positive fits, shortOf_down priced le ?_ less⟩
      exact le_divRoundingUp_mul _ positive
    · -- they overflow: the quotient is taken first
      generalize numerator_eq : liquidity * 2 ^ 96 = numerator
      have positive : 0 < numerator / current + amount :=
        Nat.add_pos_right _ (Nat.pos_of_ne_zero nonzero)
      have cut : numerator / current * current ≤ numerator := Nat.div_mul_le_self ..
      refine ⟨_, rfl, shortOf_down priced ?_ ?_ less⟩
      · rw [divRoundingUp_le_iff positive]
        have bound := Nat.lt_div_mul_add (a := numerator) priced.current_pos
        have one : 1 ≤ amount := Nat.pos_of_ne_zero nonzero
        nlinarith
      · rw [numerator_eq]
        have enough := le_divRoundingUp_mul numerator positive
        generalize divRoundingUp numerator (numerator / current + amount) = next at enough ⊢
        calc numerator * current
            ≤ next * (numerator / current + amount) * current := Nat.mul_le_mul_right _ enough
          _ = next * (numerator / current * current + amount * current) := by ring
          _ ≤ next * (numerator + amount * current) := by gcongr

theorem nextPrice_input_up (nonzero : liquidity ≠ 0)
    (less : amount < amountIn false current target liquidity) :
    ∃ next, getNextSqrtPriceFromAmount1RoundingDown current liquidity amount true = some next ∧
      ShortOf false current target liquidity amount next := by
  have positive : 0 < liquidity := Nat.pos_of_ne_zero nonzero
  have below : amount * 2 ^ 96 < liquidity * (target - current) := by
    rw [← Nat.not_le, ← amountIn_up_le_iff]
    omega
  have short : amount * 2 ^ 96 / liquidity < target - current := by
    rw [Nat.div_lt_iff_lt_mul positive, Nat.mul_comm (target - current)]
    exact below
  have target_lt := priced.next_lt
  have spent : amount * 2 ^ 96 / liquidity * liquidity ≤ amount * 2 ^ 96 := Nat.div_mul_le_self ..
  have divided : amount * 2 ^ 96 / liquidity < 2 ^ 256 →
      mulDiv amount (2 ^ 96) liquidity = some (amount * 2 ^ 96 / liquidity) := mulDiv_eq positive
  generalize amount * 2 ^ 96 / liquidity = quotient at short spent divided
  have reached : current + quotient < target := by omega
  refine ⟨current + quotient, ?_, Nat.le_add_right .., reached.le, reached.ne, ?_⟩
  · have small : quotient < 2 ^ 256 := by omega
    rw [getNextSqrtPriceFromAmount1RoundingDown, if_pos rfl, divided small, Option.bind_some,
      checkedNat_eq_some]
    exact ⟨reached.trans target_lt, rfl⟩
  · rw [amountIn_up_le_iff, Nat.add_sub_cancel_left, Nat.mul_comm]
    exact spent

/-- Less input than the range takes stops short of the target. -/
theorem getNextSqrtPriceFromInput_eq (less : amount < amountIn zeroForOne current target liquidity) :
    ∃ next, getNextSqrtPriceFromInput current liquidity amount zeroForOne = some next ∧
      ShortOf zeroForOne current target liquidity amount next := by
  have nonzero : liquidity ≠ 0 := by
    rintro rfl
    cases zeroForOne <;> simp [amountIn, divRoundingUp] at less
  have usable : ¬ (current = 0 ∨ liquidity = 0) := by
    have := priced.current_pos
    omega
  rw [getNextSqrtPriceFromInput, if_neg usable]
  cases zeroForOne with
  | true => exact nextPrice_input_down priced less
  | false => exact nextPrice_input_up priced nonzero less

/-- The price that yields an output of the range. -/
def priceAfterOutput (zeroForOne : Bool) (current liquidity amount : Nat) : Nat :=
  if zeroForOne then current - divRoundingUp (amount * 2 ^ 96) liquidity
  else divRoundingUp (liquidity * 2 ^ 96 * current) (liquidity * 2 ^ 96 - amount * current)

/-- What is reached by asking for less than the range holds: a price up to the target that yields at
least the amount. -/
structure YieldedBy (zeroForOne : Bool) (current target liquidity amount next : Nat) : Prop where
  forward : Towards zeroForOne current next
  short : Towards zeroForOne next target
  moved : 0 < amount → next ≠ current
  yields : amount ≤ amountOut zeroForOne current next liquidity

theorem nextPrice_output_down (nonzero : liquidity ≠ 0)
    (less : amount < amountOut true current target liquidity) :
    getNextSqrtPriceFromAmount1RoundingDown current liquidity amount false =
        some (priceAfterOutput true current liquidity amount) ∧
      YieldedBy true current target liquidity amount
        (priceAfterOutput true current liquidity amount) := by
  have positive : 0 < liquidity := Nat.pos_of_ne_zero nonzero
  have held : amount * 2 ^ 96 ≤ liquidity * (current - target) := le_amountOut_down_iff.mp less.le
  have quotient_le : divRoundingUp (amount * 2 ^ 96) liquidity ≤ current - target := by
    rw [divRoundingUp_le_iff positive, Nat.mul_comm (current - target)]
    exact held
  have enough := le_divRoundingUp_mul (amount * 2 ^ 96) positive
  have target_pos := priced.next_pos
  have current_pos := priced.current_pos
  have current_lt := priced.current_lt
  rw [priceAfterOutput, if_pos rfl]
  constructor
  · rw [getNextSqrtPriceFromAmount1RoundingDown, if_neg Bool.false_ne_true,
      mulDivRoundingUp_eq positive (by omega), Option.bind_some, if_pos (by omega)]
  · have room : target < current := by
      by_contra above
      rw [Nat.sub_eq_zero_of_le (Nat.not_lt.mp above)] at quotient_le held
      rw [amountOut, if_pos rfl, Nat.sub_eq_zero_of_le (Nat.not_lt.mp above)] at less
      simp at less
    refine ⟨Nat.sub_le .., ?_, ?_, ?_⟩
    · show target ≤ current - divRoundingUp (amount * 2 ^ 96) liquidity
      omega
    · intro some
      have quotient_pos : 0 < divRoundingUp (amount * 2 ^ 96) liquidity := by
        rw [lt_divRoundingUp_iff positive]
        omega
      omega
    · rw [le_amountOut_down_iff, Nat.mul_comm liquidity]
      have moved : current - (current - divRoundingUp (amount * 2 ^ 96) liquidity) =
          divRoundingUp (amount * 2 ^ 96) liquidity := by omega
      rw [moved]
      exact enough

end

theorem lt_of_lt_amountOut (less : amount < amountOut false current target liquidity) :
    current < target := by
  by_contra below
  rw [amountOut, if_neg Bool.false_ne_true, Nat.sub_eq_zero_of_le (Nat.not_lt.mp below)] at less
  simp at less

section

variable (priced : Priced current target liquidity)
include priced

/-- What is taken out of a range is less than what the range starts with. -/
theorem product_lt (less : amount < amountOut false current target liquidity) :
    amount * current < liquidity * 2 ^ 96 := by
  have held : amount * current * target ≤ liquidity * 2 ^ 96 * (target - current) :=
    (le_amountOut_up_iff priced).mp less.le
  have nonzero : liquidity ≠ 0 := by
    rintro rfl
    simp [amountOut] at less
  have start : 0 < liquidity * 2 ^ 96 * current :=
    Nat.mul_pos (Nat.mul_pos (Nat.pos_of_ne_zero nonzero) (by positivity)) priced.current_pos
  have above := lt_of_lt_amountOut less
  generalize liquidity * 2 ^ 96 = numerator at held start ⊢
  by_contra atLeast
  have grown := Nat.mul_le_mul_right target (Nat.not_lt.mp atLeast)
  have inside : numerator * current ≤ numerator * target := Nat.mul_le_mul_left numerator above.le
  rw [Nat.mul_sub] at held
  omega

theorem nextPrice_output_up (less : amount < amountOut false current target liquidity) :
    getNextSqrtPriceFromAmount0RoundingUp current liquidity amount false =
        some (priceAfterOutput false current liquidity amount) ∧
      YieldedBy false current target liquidity amount
        (priceAfterOutput false current liquidity amount) := by
  have held : amount * current * target ≤ liquidity * 2 ^ 96 * (target - current) :=
    (le_amountOut_up_iff priced).mp less.le
  have product_lt := product_lt priced less
  have above := lt_of_lt_amountOut less
  have numerator_lt : liquidity * 2 ^ 96 < 2 ^ 224 := by
    have := priced.liquidity_lt
    omega
  have target_lt := priced.next_lt
  have current_pos := priced.current_pos
  rw [priceAfterOutput, if_neg Bool.false_ne_true]
  generalize numerator_eq : liquidity * 2 ^ 96 = numerator at held product_lt numerator_lt
  rw [Nat.mul_sub] at held
  have grows : numerator * current ≤ numerator * target := Nat.mul_le_mul_left numerator above.le
  have positive : 0 < numerator - amount * current := Nat.sub_pos_of_lt product_lt
  have reached : divRoundingUp (numerator * current) (numerator - amount * current) ≤ target := by
    rw [divRoundingUp_le_iff positive, Nat.mul_sub]
    have swap : target * (amount * current) = amount * current * target := Nat.mul_comm ..
    have swap' : target * numerator = numerator * target := Nat.mul_comm ..
    omega
  have enough := le_divRoundingUp_mul (numerator * current) positive
  have started : 0 < amount →
      current < divRoundingUp (numerator * current) (numerator - amount * current) := by
    intro some
    rw [lt_divRoundingUp_iff positive, Nat.mul_sub, Nat.mul_comm current numerator]
    have taken : 0 < current * (amount * current) :=
      Nat.mul_pos current_pos (Nat.mul_pos some current_pos)
    have start : current * (amount * current) ≤ numerator * current := by
      rw [Nat.mul_comm]
      exact Nat.mul_le_mul_right current product_lt.le
    omega
  have kept : current ≤ divRoundingUp (numerator * current) (numerator - amount * current) := by
    apply Nat.le_of_mul_le_mul_right _ positive
    refine le_trans ?_ enough
    rw [Nat.mul_comm numerator]
    exact Nat.mul_le_mul_left current (Nat.sub_le ..)
  have product_small : amount * current < 2 ^ 256 := by omega
  have fits : divRoundingUp (numerator * current) (numerator - amount * current) < 2 ^ 256 := by omega
  constructor
  · unfold getNextSqrtPriceFromAmount0RoundingUp
    rw [numerator_eq]
    split
    · rename_i zero
      rw [zero, Nat.zero_mul, Nat.sub_zero]
      have exact : divRoundingUp (numerator * current) numerator = current := by
        apply le_antisymm
        · rw [divRoundingUp_le_iff (by omega), Nat.mul_comm]
        · simpa [zero] using kept
      rw [exact]
    · rw [if_neg Bool.false_ne_true, if_pos ⟨product_small, product_lt⟩,
        mulDivRoundingUp_eq positive fits, Option.bind_some, checkedNat_eq_some]
      exact ⟨by omega, rfl⟩
  · generalize divRoundingUp (numerator * current) (numerator - amount * current) = next at *
    have priced' : Priced current next liquidity :=
      ⟨current_pos, priced.current_lt, by omega, by omega, priced.liquidity_lt⟩
    refine ⟨kept, reached, fun some => (started some).ne', ?_⟩
    rw [le_amountOut_up_iff priced', numerator_eq, Nat.mul_sub]
    rw [Nat.mul_sub] at enough
    have swap : next * (amount * current) = amount * current * next := Nat.mul_comm ..
    have swap' : next * numerator = numerator * next := Nat.mul_comm ..
    have inside : next * (amount * current) ≤ next * numerator :=
      Nat.mul_le_mul_left next product_lt.le
    omega

/-- Less output than the range holds is yielded by a price up to the target. -/
theorem getNextSqrtPriceFromOutput_eq
    (less : amount < amountOut zeroForOne current target liquidity) :
    getNextSqrtPriceFromOutput current liquidity amount zeroForOne =
        some (priceAfterOutput zeroForOne current liquidity amount) ∧
      YieldedBy zeroForOne current target liquidity amount
        (priceAfterOutput zeroForOne current liquidity amount) := by
  have nonzero : liquidity ≠ 0 := by
    rintro rfl
    cases zeroForOne <;> simp [amountOut] at less
  have usable : ¬ (current = 0 ∨ liquidity = 0) := by
    have := priced.current_pos
    omega
  rw [getNextSqrtPriceFromOutput, if_neg usable]
  cases zeroForOne with
  | true => exact nextPrice_output_down priced nonzero less
  | false => exact nextPrice_output_up priced less

/-- More output moves the price further. -/
theorem priceAfterOutput_mono {more : Nat} (le : amount ≤ more)
    (less : more < amountOut zeroForOne current target liquidity) :
    Towards zeroForOne (priceAfterOutput zeroForOne current liquidity amount)
      (priceAfterOutput zeroForOne current liquidity more) := by
  cases zeroForOne with
  | true =>
    have positive : 0 < liquidity := by
      apply Nat.pos_of_ne_zero
      rintro rfl
      simp [amountOut] at less
    simp only [Towards, priceAfterOutput, if_true]
    apply Nat.sub_le_sub_left
    rw [divRoundingUp_le_iff positive]
    exact (Nat.mul_le_mul_right _ le).trans (le_divRoundingUp_mul _ positive)
  | false =>
    have product := product_lt priced less
    have grown : amount * current ≤ more * current := Nat.mul_le_mul_right current le
    simp only [Towards, priceAfterOutput, Bool.false_eq_true, if_false]
    generalize liquidity * 2 ^ 96 = numerator at product ⊢
    have positive : 0 < numerator - amount * current := by omega
    have positive' : 0 < numerator - more * current := by omega
    rw [divRoundingUp_le_iff positive]
    refine (le_divRoundingUp_mul _ positive').trans (Nat.mul_le_mul_left _ ?_)
    omega

end

end Prices

/-! ## The step -/

/-- What remains of an input after the fee. -/
def lessFee (amount feePips : Nat) : Nat :=
  amount * (1000000 - feePips) / 1000000

section Step

variable {current target liquidity feePips amount : Nat}

theorem towards_direction (current target : Nat) :
    Towards (direction current target) current target := by
  unfold Towards direction
  split <;> rename_i le <;> rw [decide_eq_true_eq] at le <;> omega

/-- The whole output of a range. -/
def fullOutput (current target liquidity : Nat) : Nat :=
  amountOut (direction current target) current target liquidity

/-- The whole input of a range, without the fee. -/
def fullInput (current target liquidity : Nat) : Nat :=
  amountIn (direction current target) current target liquidity

/-- The whole cost of a range. -/
def fullCost (current target liquidity feePips : Nat) : Nat :=
  fullInput current target liquidity + feeOn (fullInput current target liquidity) feePips

/-- The price reached by an output that the range does not exceed. -/
def priceYielding (current target liquidity amount : Nat) : Nat :=
  priceAfterOutput (direction current target) current liquidity amount

/-- The cost of an output of at most the whole range. -/
def costOf (current target liquidity feePips amount : Nat) : Nat :=
  if fullOutput current target liquidity ≤ amount then fullCost current target liquidity feePips
  else
    let input := amountIn (direction current target) current
      (priceYielding current target liquidity amount) liquidity
    input + feeOn input feePips

section

variable (priced : Priced current target liquidity)
include priced

theorem inputDelta_full : inputDelta (direction current target) current target liquidity =
    some (fullInput current target liquidity) :=
  inputDelta_eq priced (towards_direction ..)

theorem outputDelta_full : outputDelta (direction current target) current target liquidity =
    some (fullOutput current target liquidity) :=
  outputDelta_eq priced (towards_direction ..)

/-- An input that covers the range reaches the target. -/
theorem computeSwapStep_input_full (fee_lt : feePips < 1000000) (bounded : amount < 2 ^ 256)
    (covers : fullCost current target liquidity feePips ≤ amount) :
    computeSwapStep current target liquidity amount feePips = some ⟨target,
      fullInput current target liquidity, fullOutput current target liquidity,
      feeOn (fullInput current target liquidity) feePips⟩ := by
  have small : fullInput current target liquidity < 2 ^ 225 := amountIn_lt priced
  have enough := (le_lessFee_iff fee_lt).mpr covers
  rw [computeSwapStep, if_pos (Int.natCast_nonneg amount), Int.toNat_natCast]
  simp only [exactInputStep, mulDiv_lessFee bounded, inputDelta_full priced,
    outputDelta_full priced, if_pos enough, if_true, mulDivRoundingUp_fee fee_lt small,
    Option.bind_eq_bind, Option.bind_some, Option.pure_def]

/-- What a partly spent range returns: all of the input is spent, short of the target. -/
structure SpentPart (current target amount : Nat) (step : SwapStep) : Prop where
  forward : Towards (direction current target) current step.sqrtRatioNext
  short : Towards (direction current target) step.sqrtRatioNext target
  ne : step.sqrtRatioNext ≠ target
  spent : step.amountIn + step.feeAmount = amount
  output_lt : step.amountOut < 2 ^ 225

/-- The reached price of a partial step is between two prices of the library's types. -/
theorem Priced.between {next : Nat} (forward : Towards (direction current target) current next)
    (short : Towards (direction current target) next target) : Priced current next liquidity := by
  obtain ⟨current_pos, current_lt, target_pos, target_lt, liquidity_lt⟩ := priced
  unfold Towards at forward short
  refine ⟨current_pos, current_lt, ?_, ?_, liquidity_lt⟩ <;> split_ifs at forward short <;> omega

section

variable (fee_lt : feePips < 1000000)
include fee_lt

/-- The step of a partly spent range, by the price at which it stops. -/
theorem computeSwapStep_part_eq (bounded : amount < 2 ^ 256)
    (less : amount < fullCost current target liquidity feePips) :
    ∃ next, getNextSqrtPriceFromInput current liquidity (lessFee amount feePips)
        (direction current target) = some next ∧
      ShortOf (direction current target) current target liquidity (lessFee amount feePips) next ∧
      computeSwapStep current target liquidity amount feePips =
        some ⟨next, amountIn (direction current target) current next liquidity,
          amountOut (direction current target) current next liquidity,
          amount - amountIn (direction current target) current next liquidity⟩ := by
  have lacking : ¬ fullInput current target liquidity ≤ lessFee amount feePips := by
    rw [lessFee, le_lessFee_iff fee_lt]
    exact Nat.not_le.mpr less
  have cut : mulDiv amount (1000000 - feePips) 1000000 = some (lessFee amount feePips) :=
    mulDiv_lessFee bounded
  obtain ⟨next, reached, shortOf⟩ :=
    getNextSqrtPriceFromInput_eq priced (Nat.lt_of_not_le lacking)
  have priced' := priced.between shortOf.forward shortOf.short
  refine ⟨next, reached, shortOf, ?_⟩
  rw [computeSwapStep, if_pos (Int.natCast_nonneg amount), Int.toNat_natCast]
  simp only [exactInputStep, cut, inputDelta_full priced, if_neg lacking, reached,
    if_neg shortOf.ne, inputDelta_eq priced' shortOf.forward,
    outputDelta_eq priced' shortOf.forward, Option.bind_eq_bind, Option.bind_some, Option.pure_def]

/-- An input that does not cover the range is spent exactly, and does not reach the target. -/
theorem computeSwapStep_input_part (bounded : amount < 2 ^ 256)
    (less : amount < fullCost current target liquidity feePips) :
    ∃ step, computeSwapStep current target liquidity amount feePips = some step ∧
      SpentPart current target amount step := by
  have cut : lessFee amount feePips ≤ amount := by
    have scaled : amount * (1000000 - feePips) ≤ amount * 1000000 :=
      Nat.mul_le_mul_left amount (Nat.sub_le ..)
    unfold lessFee
    omega
  obtain ⟨next, -, ⟨forward, short, ne, spent⟩, computed⟩ :=
    computeSwapStep_part_eq priced fee_lt bounded less
  exact ⟨_, computed, forward, short, ne, Nat.add_sub_cancel' (spent.trans cut),
    amountOut_lt (priced.between forward short)⟩

/-- An output of at least the range costs the whole of it. -/
theorem computeSwapStep_output_full (positive : 0 < amount)
    (covers : fullOutput current target liquidity ≤ amount) :
    computeSwapStep current target liquidity (-amount) feePips = some ⟨target,
      fullInput current target liquidity, fullOutput current target liquidity,
      feeOn (fullInput current target liquidity) feePips⟩ := by
  have small : fullInput current target liquidity < 2 ^ 225 := amountIn_lt priced
  rw [computeSwapStep, if_neg (by omega), Int.neg_neg, Int.toNat_natCast]
  simp only [exactOutputStep, inputDelta_full priced, outputDelta_full priced, if_pos covers, if_true,
    mulDivRoundingUp_fee fee_lt small, Option.bind_eq_bind, Option.bind_some, Option.pure_def,
    min_eq_left covers]

/-- An output of less than the range is produced exactly.  The price that yields it may already be
the target. -/
theorem computeSwapStep_output_part (positive : 0 < amount)
    (less : amount < fullOutput current target liquidity) :
    ∃ step, computeSwapStep current target liquidity (-amount) feePips = some step ∧
      step.sqrtRatioNext = priceYielding current target liquidity amount ∧
      step.amountOut = amount ∧
      step.amountIn + step.feeAmount = costOf current target liquidity feePips amount := by
  obtain ⟨reached, forward, short, -, yields⟩ := getNextSqrtPriceFromOutput_eq priced less
  have priced' := priced.between forward short
  have partly : ¬ fullOutput current target liquidity ≤ amount := Nat.not_le.mpr less
  rw [costOf, if_neg partly, priceYielding]
  generalize priceAfterOutput (direction current target) current liquidity amount = next at *
  have small : amountIn (direction current target) current next liquidity < 2 ^ 225 :=
    amountIn_lt priced'
  refine ⟨⟨next, amountIn (direction current target) current next liquidity, amount,
    feeOn (amountIn (direction current target) current next liquidity) feePips⟩, ?_, rfl, rfl, rfl⟩
  rw [computeSwapStep, if_neg (by omega), Int.neg_neg, Int.toNat_natCast]
  simp only [exactOutputStep, outputDelta_full priced, if_neg partly, reached,
    inputDelta_eq priced' forward, outputDelta_eq priced' forward, mulDivRoundingUp_fee fee_lt small,
    Option.bind_eq_bind, Option.bind_some, Option.pure_def, min_eq_right yields, min_eq_right less.le, ite_self]

end

/-! ## Costs -/

theorem fullOutput_eq_zero (free : fullCost current target liquidity feePips = 0) :
    fullOutput current target liquidity = 0 :=
  amountOut_eq_zero priced (Nat.eq_zero_of_add_eq_zero_right free)

theorem fullCost_lt (fee_lt : feePips < 1000000) :
    fullCost current target liquidity feePips < 2 ^ 246 := by
  have small : fullInput current target liquidity < 2 ^ 225 := amountIn_lt priced
  have fee := feeOn_lt fee_lt small
  unfold fullCost
  omega

/-- Between prices that are not too low, a range costs much less. -/
theorem fullCost_lt_of_low (fee_lt : feePips < 1000000) (low : 2 ^ 32 ≤ target) :
    fullCost current target liquidity feePips < 2 ^ 214 := by
  have input : fullInput current target liquidity ≤ 2 ^ 192 :=
    amountIn_le priced low (by norm_num) le_rfl
  have fee := feeOn_le fee_lt (fullInput current target liquidity)
  unfold fullCost
  omega

theorem fullOutput_lt : fullOutput current target liquidity < 2 ^ 225 :=
  amountOut_lt priced

theorem costOf_le (fee_lt : feePips < 1000000) :
    costOf current target liquidity feePips amount ≤ fullCost current target liquidity feePips := by
  unfold costOf
  split
  · exact le_rfl
  · rename_i less
    obtain ⟨-, forward, short, -, -⟩ := getNextSqrtPriceFromOutput_eq priced (Nat.not_le.mp less)
    have input := amountIn_mono (priced.between forward short) priced short
    exact Nat.add_le_add input (feeOn_mono fee_lt input)

/-- Where an output already reaches the target, so does every greater one. -/
theorem priceYielding_target {more : Nat} (le : amount ≤ more)
    (less : more < fullOutput current target liquidity)
    (reached : priceYielding current target liquidity amount = target) :
    priceYielding current target liquidity more = target := by
  have further := priceAfterOutput_mono priced le less
  obtain ⟨-, -, short, -, -⟩ := getNextSqrtPriceFromOutput_eq priced less
  unfold priceYielding at *
  rw [reached] at further
  unfold Towards at further short
  split_ifs at further short <;> omega

end

/-- A part of the way up by one unit of price is none of it. -/
theorem SpentPart.stays {step : SwapStep}
    (part : SpentPart current (current + 1) amount step) : step.sqrtRatioNext = current := by
  obtain ⟨forward, short, ne, -, -⟩ := part
  simp only [Towards, direction, Nat.not_succ_le_self, decide_false, Bool.false_eq_true, if_false]
    at forward short
  omega

/-- An output that already reaches the target costs the whole range. -/
theorem costOf_of_target (reached : priceYielding current target liquidity amount = target) :
    costOf current target liquidity feePips amount = fullCost current target liquidity feePips := by
  unfold costOf
  rw [reached]
  split <;> rfl

/-- An output costs something. -/
theorem costOf_ne_zero (priced : Priced current target liquidity) (positive : 0 < amount)
    (less : amount < fullOutput current target liquidity) :
    costOf current target liquidity feePips amount ≠ 0 := by
  obtain ⟨-, forward, short, -, yields⟩ := getNextSqrtPriceFromOutput_eq priced less
  rw [costOf, if_neg (Nat.not_le.mpr less), priceYielding]
  intro free
  have none := amountOut_eq_zero (priced.between forward short)
    (Nat.eq_zero_of_add_eq_zero_right free)
  omega

/-- An output moves the price. -/
theorem priceYielding_ne (priced : Priced current target liquidity) (positive : 0 < amount)
    (less : amount < fullOutput current target liquidity) :
    priceYielding current target liquidity amount ≠ current :=
  (getNextSqrtPriceFromOutput_eq priced less).2.moved positive

end Step

end SwapMath
