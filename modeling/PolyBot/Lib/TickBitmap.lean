import Mathlib.Tactic.Linarith

/-!
# Bitmaps over the integers

A set of integers is kept in words of 256 bits: the index `i` is bit `i % 256` of word `i / 256`.
A search looks through one word only, downwards from an index or upwards from it, and returns the
end of the word when it finds nothing.

* `TickBitmap.marked_flip`: a flip changes one index.
* `TickBitmap.searchDown_spec`, `TickBitmap.searchUp_spec`: what a search of one word finds.
* `TickBitmap.nextInitializedTickWithinOneWord`: the search of the reference library, on ticks that
  are multiples of a spacing.
* `TickBitmap.nextInitializedTickI32_eq`: in `i32` arithmetic it is the same search, for the spacings
  of an `int24`.
-/

/-- The non-zero words of a bitmap. -/
abbrev TickBitmap := Std.TreeMap Int Nat

namespace TickBitmap

/-! ## One word -/

def mostSignificantBit (word : Nat) : Nat :=
  word.log2

def leastSignificantBit (word : Nat) : Nat :=
  ((List.range 256).find? word.testBit).getD 0

/-- The bits up to `bit`. -/
def lowMask (bit : Nat) : Nat :=
  2 ^ (bit + 1) - 1

/-- The bits from `bit` on: `U256::MAX << bit`. -/
def highMask (bit : Nat) : Nat :=
  ((2 ^ 256 - 1) <<< bit) % 2 ^ 256

theorem testBit_and_lowMask (word bit k : Nat) :
    (word &&& lowMask bit).testBit k = (word.testBit k && decide (k ≤ bit)) := by
  rw [Nat.testBit_and, lowMask, Nat.testBit_two_pow_sub_one]
  simp only [Nat.lt_succ_iff]

variable {bit k word : Nat}

theorem testBit_and_highMask (below : k < 256) :
    (word &&& highMask bit).testBit k = (word.testBit k && decide (bit ≤ k)) := by
  rw [Nat.testBit_and, highMask, Nat.testBit_mod_two_pow, Nat.testBit_shiftLeft,
    Nat.testBit_two_pow_sub_one, decide_eq_true below, Bool.true_and]
  by_cases above : bit ≤ k
  · have inside : k - bit < 256 := by omega
    simp [above, inside]
  · simp [above]

theorem le_log2_of_testBit (set : word.testBit k = true) : k ≤ word.log2 := by
  have large := Nat.ge_two_pow_of_testBit set
  have nonzero : word ≠ 0 := by
    rintro rfl
    simp at set
  by_contra less
  have small := (Nat.log2_lt nonzero).mp (Nat.lt_of_not_le less)
  omega

/-- The highest marked bit at or below `bit`. -/
theorem mostSignificantBit_spec (found : word &&& lowMask bit ≠ 0) :
    mostSignificantBit (word &&& lowMask bit) ≤ bit ∧
      word.testBit (mostSignificantBit (word &&& lowMask bit)) = true ∧
      ∀ k, mostSignificantBit (word &&& lowMask bit) < k → k ≤ bit → word.testBit k = false := by
  have top := Nat.testBit_log2 found
  rw [testBit_and_lowMask, Bool.and_eq_true, decide_eq_true_eq] at top
  refine ⟨top.2, top.1, ?_⟩
  intro k above below
  rw [← Bool.not_eq_true]
  intro set
  have masked : (word &&& lowMask bit).testBit k = true := by
    rw [testBit_and_lowMask, set, decide_eq_true below]
    rfl
  exact absurd (le_log2_of_testBit masked) (Nat.not_le_of_lt above)

theorem testBit_of_lowMask_eq_zero (none : word &&& lowMask bit = 0) (below : k ≤ bit) :
    word.testBit k = false := by
  have masked := testBit_and_lowMask word bit k
  rw [none, Nat.zero_testBit, decide_eq_true below, Bool.and_true] at masked
  exact masked.symm

theorem testBit_of_highMask_eq_zero (none : word &&& highMask bit = 0) (above : bit ≤ k)
    (below : k < 256) : word.testBit k = false := by
  have masked : (word &&& highMask bit).testBit k = (word.testBit k && decide (bit ≤ k)) :=
    testBit_and_highMask below
  rw [none, Nat.zero_testBit, decide_eq_true above, Bool.and_true] at masked
  exact masked.symm

/-- The lowest marked bit at or above `bit`. -/
theorem leastSignificantBit_spec (found : word &&& highMask bit ≠ 0) :
    bit ≤ leastSignificantBit (word &&& highMask bit) ∧
      leastSignificantBit (word &&& highMask bit) < 256 ∧
      word.testBit (leastSignificantBit (word &&& highMask bit)) = true ∧
      ∀ k, bit ≤ k → k < leastSignificantBit (word &&& highMask bit) →
        word.testBit k = false := by
  have small : word &&& highMask bit < 2 ^ 256 :=
    lt_of_le_of_lt Nat.and_le_right (Nat.mod_lt _ (by positivity))
  unfold leastSignificantBit
  rcases searched : (List.range 256).find? (word &&& highMask bit).testBit with _ | least
  · -- A word that is not zero has a bit, and it is among the 256.
    obtain ⟨k, set⟩ := Nat.exists_testBit_of_ne_zero found
    have inside : k < 256 := by
      by_contra outside
      have large := Nat.ge_two_pow_of_testBit set
      have grown : 2 ^ 256 ≤ 2 ^ k := Nat.pow_le_pow_right (by omega) (by omega)
      omega
    have unset := List.find?_range_eq_none.mp searched k inside
    rw [set] at unset
    cases unset
  · obtain ⟨set, mem, before⟩ := List.find?_range_eq_some.mp searched
    have inside := List.mem_range.mp mem
    rw [testBit_and_highMask inside, Bool.and_eq_true, decide_eq_true_eq] at set
    refine ⟨set.2, inside, set.1, ?_⟩
    intro k above below
    rw [Option.getD_some] at below
    have unset := before k below
    rw [testBit_and_highMask (by omega), decide_eq_true above, Bool.and_true] at unset
    simpa using unset

/-! ## Indices -/

variable (bitmap : TickBitmap)

def row (word : Int) : Nat :=
  bitmap.getD word 0

/-- The bit of an index. -/
def marked (index : Int) : Bool :=
  (row bitmap (index / 256)).testBit (index % 256).toNat

/-- Toggles the bit of an index. -/
def flip (index : Int) : TickBitmap :=
  bitmap.insert (index / 256) (row bitmap (index / 256) ^^^ (1 <<< (index % 256).toNat))

theorem marked_empty (index : Int) : marked ∅ index = false := by
  simp [marked, row]

theorem marked_flip (index other : Int) :
    marked (flip bitmap index) other =
      if index = other then !marked bitmap other else marked bitmap other := by
  unfold marked flip row
  rw [Std.TreeMap.getD_insert]
  by_cases sameWord : index / 256 = other / 256
  · rw [if_pos (by rw [sameWord]; exact Std.compare_self), Nat.testBit_xor, Nat.one_shiftLeft,
      Nat.testBit_two_pow, sameWord]
    by_cases same : index = other
    · simp [same]
    · have bits : (index % 256).toNat ≠ (other % 256).toNat := by omega
      simp [same, bits]
  · have ne : index ≠ other := fun same => sameWord (by rw [same])
    rw [if_neg ne, if_neg (by simpa using sameWord)]

/-- An index of a word, by its bit. -/
theorem marked_of_bit {bitmap : TickBitmap} {word : Int} (below : bit < 256) :
    marked bitmap (word * 256 + bit) = (row bitmap word).testBit bit := by
  have quotient : (word * 256 + bit) / 256 = word := by omega
  have remainder : ((word * 256 + bit) % 256).toNat = bit := by omega
  rw [marked, quotient, remainder]

/-! ## Searching one word -/

/-- The search downwards from an index, the index included. -/
def searchDown (index : Int) : Int × Bool :=
  let bit := (index % 256).toNat
  let masked := row bitmap (index / 256) &&& lowMask bit
  if masked = 0 then (index - bit, false)
  else (index - (bit - mostSignificantBit masked : Int), true)

/-- The search upwards from an index, the index included. -/
def searchUp (index : Int) : Int × Bool :=
  let bit := (index % 256).toNat
  let masked := row bitmap (index / 256) &&& highMask bit
  if masked = 0 then (index + (255 - bit : Int), false)
  else (index + (leastSignificantBit masked - bit : Int), true)

/-- What a search downwards finds: the next marked index, or the first of the word. -/
structure FoundDown (bitmap : TickBitmap) (index : Int) (found : Int × Bool) : Prop where
  below : found.1 ≤ index
  flag : found.2 = marked bitmap found.1
  between : ∀ other, found.1 < other → other ≤ index → marked bitmap other = false
  inWord : index / 256 * 256 ≤ found.1
  word : found.2 = false → found.1 = index / 256 * 256

/-- What a search upwards finds: the next marked index, or the last of the word. -/
structure FoundUp (bitmap : TickBitmap) (index : Int) (found : Int × Bool) : Prop where
  above : index ≤ found.1
  flag : found.2 = marked bitmap found.1
  between : ∀ other, index ≤ other → other < found.1 → marked bitmap other = false
  inWord : found.1 ≤ index / 256 * 256 + 255
  word : found.2 = false → found.1 = index / 256 * 256 + 255

theorem exists_bit (index : Int) : ∃ (word : Int) (bit : Nat), bit < 256 ∧
    index = word * 256 + bit ∧ index / 256 = word ∧ (index % 256).toNat = bit :=
  ⟨index / 256, (index % 256).toNat, by omega, by omega, rfl, rfl⟩

theorem searchDown_spec (index : Int) : FoundDown bitmap index (searchDown bitmap index) := by
  obtain ⟨word, bit, inside, rfl, quotient, remainder⟩ := exists_bit index
  unfold searchDown
  simp only [quotient, remainder]
  -- every index from the start of the word to the one searched from is a bit of the word
  have bitOf : ∀ {other : Int}, word * 256 ≤ other → other ≤ word * 256 + bit →
      ∃ k : Nat, k ≤ bit ∧ other = word * 256 + k := fun {other} low high =>
    ⟨(other - word * 256).toNat, by omega, by omega⟩
  split
  · rename_i none
    have start : word * 256 + (bit : Int) - bit = word * 256 + (0 : Nat) := by omega
    have unset : ∀ other, word * 256 ≤ other → other ≤ word * 256 + bit →
        marked bitmap other = false := by
      intro other low high
      obtain ⟨k, below, rfl⟩ := bitOf low high
      rw [marked_of_bit (by omega)]
      exact testBit_of_lowMask_eq_zero none below
    refine ⟨by omega, ?_, ?_, by omega, by omega⟩
    · exact (unset _ (by omega) (by omega)).symm
    · intro other above below
      exact unset other (by omega) below
  · rename_i found
    obtain ⟨below, set, above⟩ := mostSignificantBit_spec found
    generalize mostSignificantBit (row bitmap word &&& lowMask bit) = most at *
    have position : word * 256 + (bit : Int) - (bit - most) = word * 256 + most := by omega
    rw [position]
    refine ⟨by omega, ?_, ?_, by omega, fun absent => nomatch absent⟩
    · rw [marked_of_bit (by omega), set]
    · intro other low high
      obtain ⟨k, inBit, rfl⟩ := bitOf (by omega) high
      rw [marked_of_bit (by omega)]
      exact above k (by omega) inBit

theorem searchUp_spec (index : Int) : FoundUp bitmap index (searchUp bitmap index) := by
  obtain ⟨word, bit, inside, rfl, quotient, remainder⟩ := exists_bit index
  unfold searchUp
  simp only [quotient, remainder]
  have bitOf : ∀ {other : Int}, word * 256 + bit ≤ other → other ≤ word * 256 + 255 →
      ∃ k : Nat, bit ≤ k ∧ k < 256 ∧ other = word * 256 + k := fun {other} low high =>
    ⟨(other - word * 256).toNat, by omega, by omega, by omega⟩
  split
  · rename_i none
    have unset : ∀ other, word * 256 + bit ≤ other → other ≤ word * 256 + 255 →
        marked bitmap other = false := by
      intro other low high
      obtain ⟨k, above, below, rfl⟩ := bitOf low high
      rw [marked_of_bit below]
      exact testBit_of_highMask_eq_zero none above below
    refine ⟨by omega, ?_, ?_, by omega, by omega⟩
    · exact (unset _ (by omega) (by omega)).symm
    · intro other above below
      exact unset other above (by omega)
  · rename_i found
    obtain ⟨above, below, set, before⟩ := leastSignificantBit_spec found
    generalize leastSignificantBit (row bitmap word &&& highMask bit) = least at *
    have position : word * 256 + (bit : Int) + (least - bit) = word * 256 + least := by omega
    rw [position]
    refine ⟨by omega, ?_, ?_, by omega, fun absent => nomatch absent⟩
    · rw [marked_of_bit below, set]
    · intro other low high
      obtain ⟨k, inBit, small, rfl⟩ := bitOf low (by omega)
      rw [marked_of_bit small]
      exact before k inBit (by omega)

/-! ## Ticks of a spacing -/

/-- A tick in units of the spacing, rounded down. -/
def compress (tick tickSpacing : Int) : Int :=
  if tick < 0 ∧ tick.tmod tickSpacing ≠ 0 then tick.tdiv tickSpacing - 1
  else tick.tdiv tickSpacing

/-- The next marked tick in the word of `tick`, downwards with the tick itself or upwards without
it, over the integers. -/
def nextInitializedTickWithinOneWord (tick tickSpacing : Int) (lte : Bool) : Int × Bool :=
  let compressed := compress tick tickSpacing
  let found := if lte then searchDown bitmap compressed else searchUp bitmap (compressed + 1)
  (found.1 * tickSpacing, found.2)

/-- The search as a release build computes it: the product with the spacing is an `i32` that wraps. -/
def nextInitializedTickI32 (tick tickSpacing : Int) (lte : Bool) : Int × Bool :=
  let found := nextInitializedTickWithinOneWord bitmap tick tickSpacing lte
  (found.1.bmod (2 ^ 32), found.2)

theorem compress_eq_ediv {tick tickSpacing : Int} (positive : 0 < tickSpacing) :
    compress tick tickSpacing = tick / tickSpacing := by
  have sign : tickSpacing.sign = 1 := Int.sign_eq_one_of_pos positive
  rw [compress, Int.tdiv_eq_ediv, sign]
  by_cases nonneg : 0 ≤ tick
  · rw [if_neg (by omega), if_pos (Or.inl nonneg)]
    omega
  · by_cases divides : tickSpacing ∣ tick
    · rw [if_neg (fun both => both.2 (Int.tmod_eq_zero_of_dvd divides)), if_pos (Or.inr divides)]
      omega
    · have remainder : tick.tmod tickSpacing ≠ 0 :=
        fun zero => divides (Int.dvd_of_tmod_eq_zero zero)
      rw [if_pos ⟨by omega, remainder⟩, if_neg (by tauto)]
      omega

/-- For the spacings of an `int24` the product fits: a wide word has few ticks of the range in it. -/
theorem bmod_product {tick tickSpacing index : Int} (positive : 0 < tickSpacing)
    (int24 : tickSpacing < 2 ^ 23) (low : -2 ^ 20 ≤ tick) (high : tick ≤ 2 ^ 20)
    (above : tick / tickSpacing / 256 * 256 ≤ index)
    (below : index ≤ (tick / tickSpacing + 1) / 256 * 256 + 255) :
    (index * tickSpacing).bmod (2 ^ 32) = index * tickSpacing := by
  have rest := Int.emod_nonneg tick positive.ne'
  have less := Int.emod_lt_of_pos tick positive
  have split := Int.mul_ediv_add_emod tick tickSpacing
  have bounds : -2 ^ 31 ≤ index * tickSpacing ∧ index * tickSpacing < 2 ^ 31 := by
    by_cases narrow : tickSpacing ≤ 2 ^ 20
    · have lower : (tick / tickSpacing - 255) * tickSpacing ≤ index * tickSpacing :=
        Int.mul_le_mul_of_nonneg_right (by omega) positive.le
      have upper : index * tickSpacing ≤ (tick / tickSpacing + 256) * tickSpacing :=
        Int.mul_le_mul_of_nonneg_right (by omega) positive.le
      rw [Int.sub_mul, Int.mul_comm (tick / tickSpacing)] at lower
      rw [Int.add_mul, Int.mul_comm (tick / tickSpacing)] at upper
      omega
    · -- the range lies in the two words next to zero
      have first : -1 ≤ tick / tickSpacing := Int.le_ediv_of_mul_le positive (by omega)
      have last : tick / tickSpacing < 1 := Int.ediv_lt_of_lt_mul positive (by omega)
      have lower : -256 * tickSpacing ≤ index * tickSpacing :=
        Int.mul_le_mul_of_nonneg_right (by omega) positive.le
      have upper : index * tickSpacing ≤ 255 * tickSpacing :=
        Int.mul_le_mul_of_nonneg_right (by omega) positive.le
      omega
  exact Int.bmod_eq_of_le_mul_two (by omega) (by omega)

theorem nextInitializedTickI32_eq {tick tickSpacing : Int} {lte : Bool} (positive : 0 < tickSpacing)
    (int24 : tickSpacing < 2 ^ 23) (low : -2 ^ 20 ≤ tick) (high : tick ≤ 2 ^ 20) :
    nextInitializedTickI32 bitmap tick tickSpacing lte =
      nextInitializedTickWithinOneWord bitmap tick tickSpacing lte := by
  refine Prod.ext (bmod_product positive int24 low high ?_ ?_) rfl
  all_goals rw [compress_eq_ediv positive]
  · cases lte with
    | true => exact (searchDown_spec bitmap _).inWord
    | false =>
      have above := (searchUp_spec bitmap (tick / tickSpacing + 1)).above
      show _ ≤ (searchUp bitmap _).1
      omega
  · cases lte with
    | true =>
      have below := (searchDown_spec bitmap (tick / tickSpacing)).below
      show (searchDown bitmap _).1 ≤ _
      omega
    | false => exact (searchUp_spec bitmap _).inWord

end TickBitmap
