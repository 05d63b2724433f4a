import PolyBot.Bridge.Calldata

/-!
# Untrusted hex texts

The text of a call comes from the bridge's interface.  It is cut into slices of two bytes, and a
slice that ends inside a character ends the process; a slice is read by a parser of numbers, which
takes a plus sign before the digits.

* `calldata_is_strict_iff`: on which texts it is the strict reader it is meant to be.
-/

namespace PolyBot.Bridge

open PolyBot.Trade (hexDigit)

/-! ## What is read -/

/-- Two hexadecimal digits for every byte, in any case. -/
inductive Spells : List Char → List UInt8 → Prop
  | nil : Spells [] []
  | cons {high low : Char} {h l : Nat} {hex : List Char} {bytes : List UInt8}
      (isHigh : hexDigit high = some h) (isLow : hexDigit low = some l) (rest : Spells hex bytes) :
      Spells (high :: low :: hex) (UInt8.ofNat (h * 16 + l) :: bytes)

/-- The strict reader: it returns bytes exactly for the texts that spell them, and an error for
every other text. -/
def Strict (name value : String) : Prop :=
  decodeCalldata name value ≠ .error .panicked ∧
    ∀ bytes, decodeCalldata name value = .ok bytes ↔
      ∃ hex, value.toList = '0' :: 'x' :: hex ∧ Spells hex bytes

/-- A slice that the parser of numbers takes: a digit, behind a digit or a plus sign. -/
def Accepted (high low : Char) : Prop :=
  (high = '+' ∨ (hexDigit high).isSome) ∧ (hexDigit low).isSome

/-- Behind slices that are taken, one cuts a character in two; or all are taken and one has a
sign. -/
def Strays (signed : Prop) : List Char → Prop
  | [] => signed
  | [only] => only.utf8Size ≠ 2
  | first :: second :: rest => first.utf8Size ≠ 2 ∧
    (first.utf8Size = 1 ∧ second.utf8Size = 1 →
      Accepted first second ∧ Strays (signed ∨ first = '+') rest)

variable {c high low : Char} {name : String} {hex : List Char} {bytes : List UInt8}

theorem hexDigit_spec {digit : Nat} (isDigit : hexDigit c = some digit) :
    digit < 16 ∧ c.utf8Size = 1 ∧ c ≠ '+' := by
  have ascii (code : c.toNat ≤ 127) : c.utf8Size = 1 :=
    Char.utf8Size_eq_one_iff.mpr (UInt32.le_iff_toNat_le.mpr code)
  have unsigned (code : c.toNat ≠ 43) : c ≠ '+' := by
    rintro rfl
    exact code rfl
  unfold hexDigit at isDigit
  simp only [Char.le_def, UInt32.le_iff_toNat_le] at isDigit
  change (if 48 ≤ c.toNat ∧ c.toNat ≤ 57 then some (c.toNat - 48)
    else if 97 ≤ c.toNat ∧ c.toNat ≤ 102 then some (c.toNat - 97 + 10)
    else if 65 ≤ c.toNat ∧ c.toNat ≤ 70 then some (c.toNat - 65 + 10) else none) = _ at isDigit
  split_ifs at isDigit <;> cases isDigit <;> exact ⟨by omega, ascii (by omega), unsigned (by omega)⟩

theorem fromStrRadix_unsigned (unsigned : high ≠ '+') :
    fromStrRadix 8 16 [high, low] =
      (hexDigit high).bind fun h => (hexDigit low).map (h * 16 + ·) := by
  rcases isHigh : hexDigit high with _ | h
  · simp [fromStrRadix, digitsValue, isHigh, unsigned]
  · have high_lt := (hexDigit_spec isHigh).1
    rcases isLow : hexDigit low with _ | l
    · simp [fromStrRadix, digitsValue, isHigh, isLow, high_lt, unsigned, guard]
    · have low_lt := (hexDigit_spec isLow).1
      simp [fromStrRadix, digitsValue, isHigh, isLow, high_lt, low_lt, unsigned, guard, Option.filter]
      omega

theorem fromStrRadix_signed : fromStrRadix 8 16 ['+', low] = hexDigit low := by
  rcases isLow : hexDigit low with _ | l
  · simp [fromStrRadix, digitsValue, isLow]
  · have low_lt := (hexDigit_spec isLow).1
    simp [fromStrRadix, digitsValue, isLow, low_lt, guard, Option.filter]
    omega

theorem fromStrRadix_isSome :
    (fromStrRadix 8 16 [high, low]).isSome ↔ Accepted high low := by
  unfold Accepted
  by_cases sign : high = '+'
  · subst sign
    simp [fromStrRadix_signed]
  · rcases isHigh : hexDigit high with _ | h <;>
      simp [fromStrRadix_unsigned sign, isHigh, sign]

theorem decodeSlice_wide (wide : c.utf8Size = 2) :
    decodeSlice name [c] = .error (.rejected s!"{name} contains invalid hex") := by
  have sign : c ≠ '+' := by
    rintro rfl
    cases wide
  have isNone : hexDigit c = none := by
    rcases isDigit : hexDigit c with _ | digit
    · rfl
    · have narrow := (hexDigit_spec isDigit).2.1
      omega
  simp [decodeSlice, orError, fromStrRadix, digitsValue, isNone, sign]

theorem error_bind {ε α β : Type} (e : ε) (f : α → Except ε β) : (Except.error e >>= f) = .error e :=
  rfl

/-- The texts on which the loop ends the process or takes a sign. -/
theorem strays_iff {signed : Prop} : Strays signed hex ↔
    decodeSlices name hex = .error .panicked ∨
      (signed ∨ '+' ∈ hex) ∧ ∃ bytes, decodeSlices name hex = .ok bytes := by
  fun_induction decodeSlices name hex generalizing signed with
  | case1 => simp [Strays]
  | case2 first rest wide ih =>
    rw [decodeSlice_wide wide, error_bind]
    cases rest <;> simp [Strays, wide]
  | case3 first narrow => simp [Strays, narrow]
  | case4 first narrow second rest ascii ih =>
    rw [Strays, ← fromStrRadix_isSome]
    rcases parsed : fromStrRadix 8 16 [first, second] with _ | byte
    · simp [decodeSlice, parsed, orError, ascii, error_bind]
    · have accepted := fromStrRadix_isSome.mp (Option.isSome_of_eq_some parsed)
      obtain ⟨l, isLow⟩ := Option.isSome_iff_exists.mp accepted.2
      have unsigned := (hexDigit_spec isLow).2.2
      rw [ih]
      rcases decodeSlices name rest with e | bytes <;>
      simp [decodeSlice, parsed, orError, ascii, ok_bind, unsigned.symm, or_assoc, eq_comm]
  | case5 first narrow second rest cut => simp [Strays, narrow, cut]

/-- What is spelled is read, and it is ASCII without a sign. -/
theorem Spells.decoded (name : String) (spells : Spells hex bytes) :
    decodeSlices name hex = .ok bytes ∧ '+' ∉ hex ∧
      (String.ofList hex).utf8ByteSize = 2 * bytes.length := by
  induction spells with
  | nil => exact ⟨rfl, List.not_mem_nil, rfl⟩
  | cons isHigh isLow rest ih =>
    obtain ⟨read, unsigned, size⟩ := ih
    obtain ⟨-, high_ascii, high_sign⟩ := hexDigit_spec isHigh
    obtain ⟨-, low_ascii, low_sign⟩ := hexDigit_spec isLow
    refine ⟨?_, ?_, ?_⟩
    · simp [decodeSlices, high_ascii, low_ascii, read, decodeSlice, isHigh, isLow, orError, ok_bind,
        fromStrRadix_unsigned high_sign]
    · simp [unsigned, high_sign.symm, low_sign.symm]
    · simp only [String.ofList_cons, String.utf8ByteSize_append, String.utf8ByteSize_singleton,
        size, high_ascii, low_ascii, List.length_cons]
      omega

/-- Without a sign, what is read is spelled. -/
theorem spells_of_decoded (unsigned : '+' ∉ hex) (read : decodeSlices name hex = .ok bytes) :
    Spells hex bytes := by
  fun_induction decodeSlices name hex generalizing bytes with
  | case1 =>
    cases read
    exact .nil
  | case2 first rest wide ih =>
    rw [decodeSlice_wide wide] at read
    cases read
  | case3 | case5 => cases read
  | case4 first narrow second rest ascii ih =>
    simp only [List.mem_cons, not_or] at unsigned
    simp only [decodeSlice, fromStrRadix_unsigned (Ne.symm unsigned.1), bind_eq_ok, map_eq_ok,
      orError_eq_ok, pure_eq_ok, Option.bind_eq_some_iff, Option.map_eq_some_iff] at read
    obtain ⟨_, ⟨_, ⟨h, isHigh, l, isLow, rfl⟩, rfl⟩, bytes, rest, rfl⟩ := read
    exact .cons isHigh isLow (ih unsigned.2.2 rest)

/-- The reader is strict on a text exactly when no slice that is reached cuts a character in two, and
no sign is among slices that are all taken. -/
theorem calldata_is_strict_iff (name value : String) :
    Strict name value ↔
      ∀ hex, value.toList = '0' :: 'x' :: hex → (String.ofList hex).utf8ByteSize % 2 = 0 →
        ¬ Strays False hex := by
  unfold Strict decodeCalldata
  split
  · rename_i hex isHex
    simp only [isHex, List.cons.injEq, true_and, forall_eq', exists_eq_left']
    by_cases even : (String.ofList hex).utf8ByteSize % 2 = 0
    · rw [require_of even, ok_bind, forall_prop_of_true even, strays_iff, not_or, false_or]
      refine and_congr_right fun _ => ?_
      constructor
      · rintro strict ⟨sign, bytes, read⟩
        exact (((strict bytes).mp read).decoded name).2.1 sign
      · intro strays bytes
        refine ⟨fun read => ?_, fun spells => (spells.decoded name).1⟩
        exact spells_of_decoded (fun sign => strays ⟨sign, bytes, read⟩) read
    · simp only [even, false_implies, iff_true, require, if_false]
      refine ⟨by rintro ⟨⟩, fun bytes => ⟨by rintro ⟨⟩, fun spells => ?_⟩⟩
      have size := (spells.decoded name).2.2
      omega
  · rename_i other
    have unmarked : ∀ hex, value.toList ≠ '0' :: 'x' :: hex := other
    simp [unmarked]

/-- A character of two bytes behind a digit ends the process, and a sign is taken for a digit. -/
theorem decode_cuts_and_signs :
    decodeCalldata "swapTx.data" "0xaéb" = .error .panicked ∧
      decodeCalldata "swapTx.data" "0x+f" = .ok [15] := by
  decide +kernel

end PolyBot.Bridge
