import PolyBot.Lib.SwapMath

/-!
# An output from the input it costs

Inside one range of prices, the input that an exact output costs yields at least that output again.
The price after an input of the first token is rounded further against the swapper where its products
do not fit into a word, and there this fails.

* `SwapMath.getNextSqrtPriceFromInput_reaches`: an input reaches every price that it pays for.
* `SwapMath.le_amountOut_of_cost`: the cost of an output yields the output.
-/

namespace SwapMath

section Reach

variable {zeroForOne : Bool} {current target next price liquidity amount feePips : Nat}

/-- The output grows with the distance. -/
theorem amountOut_mono {further : Nat} (priced : Priced current next liquidity)
    (priced' : Priced current further liquidity) (forward : Towards zeroForOne current next)
    (towards : Towards zeroForOne next further) :
    amountOut zeroForOne current next liquidity ≤ amountOut zeroForOne current further liquidity := by
  cases zeroForOne with
  | true =>
    have le : further ≤ next := towards
    have held : amountOut true current next liquidity * 2 ^ 96 ≤ liquidity * (current - next) :=
      le_amountOut_down_iff.mp le_rfl
    rw [le_amountOut_down_iff]
    refine held.trans (Nat.mul_le_mul_left liquidity ?_)
    omega
  | false =>
    have start : current ≤ next := forward
    have le : next ≤ further := towards
    have held := (le_amountOut_up_iff priced).mp le_rfl
    rw [le_amountOut_up_iff priced']
    generalize amountOut false current next liquidity * current = taken at held ⊢
    generalize liquidity * 2 ^ 96 = numerator at held ⊢
    have inside : taken ≤ numerator := by
      refine Nat.le_of_mul_le_mul_right ?_ priced.next_pos
      exact held.trans (Nat.mul_le_mul_left numerator (Nat.sub_le ..))
    -- what the nearer price leaves is enough at the further one
    have grown : (numerator - taken) * next ≤ (numerator - taken) * further :=
      Nat.mul_le_mul_left _ le
    have low : numerator * current ≤ numerator * next := Nat.mul_le_mul_left _ start
    have bound : taken * further ≤ numerator * further := Nat.mul_le_mul_right _ inside
    rw [Nat.mul_sub] at held ⊢
    rw [Nat.sub_mul, Nat.sub_mul] at grown
    omega

theorem nextPrice_input_down_reaches (priced : Priced current price liquidity)
    (usable : liquidity ≠ 0) (back : price ≤ current)
    (fits : liquidity * 2 ^ 96 + amount * current < 2 ^ 256)
    (paid : amountIn true current price liquidity ≤ amount)
    (reached : getNextSqrtPriceFromAmount0RoundingUp current liquidity amount true = some next) :
    next ≤ price := by
  have covered := (amountIn_down_le_iff priced).mp paid
  have positive : 0 < liquidity * 2 ^ 96 := Nat.mul_pos (Nat.pos_of_ne_zero usable) (by positivity)
  unfold getNextSqrtPriceFromAmount0RoundingUp at reached
  generalize liquidity * 2 ^ 96 = numerator at covered positive fits reached
  have expand : price * (numerator + amount * current) =
      numerator * price + amount * price * current := by ring
  have start : numerator * price ≤ numerator * current := Nat.mul_le_mul_left _ back
  rw [Nat.mul_sub] at covered
  have enough : numerator * current ≤ price * (numerator + amount * current) := by omega
  split at reached
  · rename_i zero
    cases reached
    rw [zero, Nat.zero_mul, Nat.add_zero, Nat.mul_comm] at enough
    exact Nat.le_of_mul_le_mul_right enough positive
  · rw [if_pos rfl, if_pos ⟨by omega, fits⟩, mulDivRoundingUp,
      if_neg (by omega : numerator + amount * current ≠ 0), checkedNat_eq_some] at reached
    obtain ⟨_, rfl⟩ := reached
    exact (divRoundingUp_le_iff (by omega)).mpr enough

theorem nextPrice_input_up_reaches (usable : liquidity ≠ 0)
    (paid : amountIn false current price liquidity ≤ amount)
    (reached : getNextSqrtPriceFromAmount1RoundingDown current liquidity amount true = some next) :
    price ≤ next := by
  have positive : 0 < liquidity := Nat.pos_of_ne_zero usable
  have covered := amountIn_up_le_iff.mp paid
  rw [getNextSqrtPriceFromAmount1RoundingDown, if_pos rfl, mulDiv, if_neg usable,
    Option.bind_eq_some_iff] at reached
  obtain ⟨quotient, divided, moved⟩ := reached
  obtain ⟨_, rfl⟩ := checkedNat_eq_some.mp divided
  obtain ⟨_, rfl⟩ := checkedNat_eq_some.mp moved
  have distance : price - current ≤ amount * 2 ^ 96 / liquidity := by
    rw [Nat.le_div_iff_mul_le positive, Nat.mul_comm]
    exact covered
  omega

/-- The products of the price after an input fit into a word, so that one division gives it. -/
def InputFits (current target liquidity amount feePips : Nat) : Prop :=
  direction current target = true →
    liquidity * 2 ^ 96 + lessFee amount feePips * current < 2 ^ 256

/-- The price that an input reaches is at least as far as any that it pays for. -/
theorem getNextSqrtPriceFromInput_reaches (priced : Priced current price liquidity)
    (forward : Towards zeroForOne current price)
    (fits : zeroForOne = true → liquidity * 2 ^ 96 + amount * current < 2 ^ 256)
    (paid : amountIn zeroForOne current price liquidity ≤ amount)
    (reached : getNextSqrtPriceFromInput current liquidity amount zeroForOne = some next) :
    Towards zeroForOne price next := by
  unfold getNextSqrtPriceFromInput at reached
  split at reached
  · cases reached
  · rename_i usable
    have funded : liquidity ≠ 0 := fun empty => usable (Or.inr empty)
    cases zeroForOne with
    | true => exact nextPrice_input_down_reaches priced funded forward (fits rfl) paid reached
    | false => exact nextPrice_input_up_reaches funded paid reached

/-- The input that an output costs yields at least that output. -/
theorem le_amountOut_of_cost (priced : Priced current target liquidity)
    (fee_lt : feePips < 1000000) (less : amount < fullOutput current target liquidity)
    (partly : costOf current target liquidity feePips amount < fullCost current target liquidity feePips)
    (fits : InputFits current target liquidity (costOf current target liquidity feePips amount) feePips)
    {step : SwapStep}
    (computed : computeSwapStep current target liquidity
      (costOf current target liquidity feePips amount) feePips = some step) :
    amount ≤ step.amountOut := by
  obtain ⟨-, forward, short, -, yields⟩ := getNextSqrtPriceFromOutput_eq priced less
  have cost : costOf current target liquidity feePips amount = amountIn (direction current target)
      current (priceAfterOutput (direction current target) current liquidity amount) liquidity +
      feeOn (amountIn (direction current target) current
        (priceAfterOutput (direction current target) current liquidity amount) liquidity) feePips := by
    rw [costOf, if_neg (Nat.not_le.mpr less)]
    rfl
  generalize costOf current target liquidity feePips amount = paid at *
  have pricedAt := priced.between forward short
  generalize priceAfterOutput (direction current target) current liquidity amount = price at *
  have bounded : paid < 2 ^ 256 := partly.trans ((fullCost_lt priced fee_lt).trans (by norm_num))
  have enough : amountIn (direction current target) current price liquidity ≤ lessFee paid feePips :=
    (le_lessFee_iff fee_lt).mpr cost.ge
  obtain ⟨next, reached, shortOf, stepped⟩ :=
    computeSwapStep_part_eq priced fee_lt bounded partly
  have further := getNextSqrtPriceFromInput_reaches pricedAt forward fits enough reached
  have output : step.amountOut = amountOut (direction current target) current next liquidity := by
    rw [stepped] at computed
    cases computed
    rfl
  rw [output]
  exact yields.trans (amountOut_mono pricedAt (priced.between shortOf.forward shortOf.short) forward
    further)

end Reach

end SwapMath
