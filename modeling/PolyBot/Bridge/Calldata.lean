import PolyBot.Trade.Plan
import Mathlib.Data.List.Induction
import Mathlib.Tactic.Ring

/-!
# Calldata

The bytes of a contract call: how they are read from a response, and the words of their arguments.
The reader of a bridge quote takes the words apart by hand, with a check that the bytes it does not
use are zero; `Abi` decodes the same words by the types of a contract's interface.  The two agree:

* `addressWord_eq_ok`: an address read by hand is the argument of type `address`.
* `wordTail_eq_ok`: a number read by hand is the argument of an unsigned integer type.
-/

namespace PolyBot.Bridge

open List

open PolyBot.Dex (fromBeSlice)
open PolyBot.Trade (hexDigit)

/-! ## Numbers in texts -/

/-- The digits of a number in a radix of at most sixteen. -/
def digitsValue (radix : Nat) (characters : List Char) : Option Nat :=
  characters.foldlM (fun value c => do
    let digit ← hexDigit c
    guard (digit < radix)
    return value * radix + digit) 0

/-- `from_str_radix` of an unsigned integer: digits after at most one plus sign. -/
def fromStrRadix (bits radix : Nat) : List Char → Option Nat
  | [] => none
  | ['+'] => none
  | '+' :: digits => (digitsValue radix digits).filter (· < 2 ^ bits)
  | digits => (digitsValue radix digits).filter (· < 2 ^ bits)

theorem fromStrRadix_lt {bits radix value : Nat} {text : List Char}
    (parsed : fromStrRadix bits radix text = some value) : value < 2 ^ bits := by
  have fits {digits : List Char}
      (digitsParsed : (digitsValue radix digits).filter (· < 2 ^ bits) = some value) :
      value < 2 ^ bits :=
    of_decide_eq_true (Option.filter_eq_some_iff.mp digitsParsed).2
  unfold fromStrRadix at parsed
  split at parsed
  · cases parsed
  · cases parsed
  · exact fits parsed
  · exact fits parsed

/-- `U256::from_str`: a mark of the radix, and underscores between the digits. -/
def u256FromStr (text : String) : Option Nat :=
  let (radix, digits) := match text.toList with
    | '0' :: mark :: rest =>
      if mark = 'x' ∨ mark = 'X' then (16, rest)
      else if mark = 'o' ∨ mark = 'O' then (8, rest)
      else if mark = 'b' ∨ mark = 'B' then (2, rest)
      else (10, text.toList)
    | characters => (10, characters)
  (digitsValue radix (digits.filter (· ≠ '_'))).filter (· < 2 ^ 256)

/-! ## Bytes in texts -/

/-- How a call ends that returns no bytes: with an error, or with the process. -/
inductive DecodeFailure
  | rejected (message : String)
  | panicked
  deriving DecidableEq

/-- The message of a check is an error. -/
instance : Coe String DecodeFailure := ⟨.rejected⟩

instance : MonadLift (Except String) (Except DecodeFailure) := ⟨Except.mapError .rejected⟩

theorem liftM_eq_ok {α : Type} {checked : Except String α} {a : α} :
    (liftM checked : Except DecodeFailure α) = .ok a ↔ checked = .ok a :=
  mapError_eq_ok

/-- One slice as a byte. -/
def decodeSlice (name : String) (slice : List Char) : Except DecodeFailure UInt8 :=
  UInt8.ofNat <$> orError (fromStrRadix 8 16 slice) (.rejected s!"{name} contains invalid hex")

/-- The slices of two bytes from here on, up to the first that is no number. -/
def decodeSlices (name : String) : List Char → Except DecodeFailure (List UInt8)
  | [] => .ok []
  | first :: rest =>
    if first.utf8Size = 2 then do
      let byte ← decodeSlice name [first]
      let bytes ← decodeSlices name rest
      return byte :: bytes
    else match rest with
      | [] => .error .panicked
      | second :: rest =>
        if first.utf8Size = 1 ∧ second.utf8Size = 1 then do
          let byte ← decodeSlice name [first, second]
          let bytes ← decodeSlices name rest
          return byte :: bytes
        else .error .panicked

/-- The bytes after a leading `0x`. -/
def decodeCalldata (name value : String) : Except DecodeFailure (List UInt8) :=
  match value.toList with
  | '0' :: 'x' :: hex => do
    require ((String.ofList hex).utf8ByteSize % 2 = 0) (.rejected s!"{name} has odd hex length")
    decodeSlices name hex
  | _ => .error (.rejected s!"{name} is not hex data")

/-- The two digits of a byte. -/
def hexDigits (byte : UInt8) : List Char :=
  [Nat.digitChar (byte.toNat / 16), Nat.digitChar (byte.toNat % 16)]

/-- The text of some bytes. -/
def encodeCalldata (bytes : List UInt8) : String :=
  String.ofList ('0' :: 'x' :: bytes.flatMap hexDigits)

theorem digitChar_ascii : ∀ digit < 16, (Nat.digitChar digit).utf8Size = 1 := by
  decide

theorem decodeSlices_encode (name : String) (bytes : List UInt8) :
    decodeSlices name (bytes.flatMap hexDigits) = .ok bytes := by
  have digits : ∀ value < 256, fromStrRadix 8 16
      [Nat.digitChar (value / 16), Nat.digitChar (value % 16)] = some value := by
    decide +kernel
  induction bytes with
  | nil => rfl
  | cons byte bytes ih =>
    have high := digitChar_ascii (byte.toNat / 16) (by have := byte.toNat_lt; omega)
    have low := digitChar_ascii (byte.toNat % 16) (by omega)
    rw [flatMap_cons, hexDigits, cons_append, cons_append, nil_append, decodeSlices,
      if_neg (by omega)]
    simp [decodeSlice, digits byte.toNat byte.toNat_lt, high, low, ih, orError, ok_bind]

theorem encode_utf8ByteSize (bytes : List UInt8) :
    (String.ofList (bytes.flatMap hexDigits)).utf8ByteSize = 2 * bytes.length := by
  induction bytes with
  | nil => rfl
  | cons byte bytes ih =>
    have high := digitChar_ascii (byte.toNat / 16) (by have := byte.toNat_lt; omega)
    have low := digitChar_ascii (byte.toNat % 16) (by omega)
    rw [flatMap_cons, hexDigits, cons_append, cons_append, nil_append,
      String.ofList_cons, String.ofList_cons, String.utf8ByteSize_append,
      String.utf8ByteSize_append, String.utf8ByteSize_singleton, String.utf8ByteSize_singleton, ih,
      high, low, length_cons]
    omega

/-- Every call has a text that is read back as its bytes. -/
theorem decodeCalldata_encode (name : String) (bytes : List UInt8) :
    decodeCalldata name (encodeCalldata bytes) = .ok bytes := by
  simp [decodeCalldata, encodeCalldata, require, decodeSlices_encode, encode_utf8ByteSize, ok_bind]

/-! ## Words -/

/-- The word of an argument, after the four bytes of the selector. -/
def word (bytes : List UInt8) (index : Nat) : Except String (List UInt8) := do
  require (4 + index * 32 + 32 ≤ bytes.length) "Across calldata is truncated"
  return (bytes.drop (4 + index * 32)).take 32

/-- A word of which only the last bytes may be used. -/
def wordTail (unused : Nat) (exceeds : String) (bytes : List UInt8) (index : Nat) :
    Except String Nat := do
  let word ← word bytes index
  require ((word.take unused).all (· = 0) = true) exceeds
  return fromBeSlice (word.drop unused)

def addressWord (bytes : List UInt8) (index : Nat) : Except String Address := do
  let value ← wordTail 12 "Across calldata address is not canonical" bytes index
  return BitVec.ofNat 160 value

def u256WordFitsU128 : List UInt8 → Nat → Except String Nat :=
  wordTail 16 "Across calldata integer exceeds u128"

def u256WordFitsU64 : List UInt8 → Nat → Except String Nat :=
  wordTail 24 "Across calldata integer exceeds u64"

def u256WordIsAtLeastU128 (bytes : List UInt8) (index minimum : Nat) : Except String Bool := do
  let word ← word bytes index
  if (word.take 16).any (· ≠ 0) then return true
  else return minimum ≤ fromBeSlice (word.drop 16)

/-! ## Arguments by type -/

namespace Abi

/-- The head of an argument. -/
def head (data : List UInt8) (index : Nat) : Option (List UInt8) :=
  if 4 + index * 32 + 32 ≤ data.length then some ((data.drop (4 + index * 32)).take 32) else none

/-- An argument of the type `uint` of some bits; a value that does not fit is rejected. -/
def uint (bits : Nat) (data : List UInt8) (index : Nat) : Option Nat :=
  ((head data index).map fromBeSlice).filter (· < 2 ^ bits)

/-- An argument of the type `address`, or an address in one of the type `bytes32`. -/
def address (data : List UInt8) (index : Nat) : Option Address :=
  (uint 160 data index).map (BitVec.ofNat 160)

end Abi

/-! ## The two readings -/

theorem fromBeSlice_append (high low : List UInt8) :
    fromBeSlice (high ++ low) = fromBeSlice high * 256 ^ low.length + fromBeSlice low := by
  have shift (start : Nat) : low.foldl (fun value byte => value * 256 + byte.toNat) start =
      start * 256 ^ low.length + fromBeSlice low := by
    unfold fromBeSlice
    induction low generalizing start with
    | nil => simp
    | cons byte low ih =>
      rw [foldl_cons, foldl_cons, ih, ih (0 * 256 + byte.toNat), length_cons]
      ring
  rw [fromBeSlice, foldl_append, shift]
  rfl

theorem fromBeSlice_lt (bytes : List UInt8) : fromBeSlice bytes < 256 ^ bytes.length := by
  induction bytes using reverseRecOn with
  | nil => simp [fromBeSlice]
  | append_singleton bytes byte ih =>
    have last : fromBeSlice [byte] < 256 := by
      simpa [fromBeSlice] using byte.toNat_lt
    rw [fromBeSlice_append, length_append, length_singleton, pow_one, pow_succ]
    omega

variable {bytes found : List UInt8} {index : Nat}

theorem fromBeSlice_eq_zero :
    fromBeSlice bytes = 0 ↔ ∀ byte ∈ bytes, byte = 0 := by
  induction bytes using reverseRecOn with
  | nil => simp [fromBeSlice]
  | append_singleton bytes byte ih =>
    have last : fromBeSlice [byte] = byte.toNat := by simp [fromBeSlice]
    rw [fromBeSlice_append, last, length_singleton, pow_one]
    constructor
    · intro zero
      have both : fromBeSlice bytes = 0 ∧ byte.toNat = 0 := by omega
      exact forall_mem_append.mpr
        ⟨ih.mp both.1, forall_mem_singleton.mpr (UInt8.toNat_inj.mp both.2)⟩
    · intro all
      have high := ih.mpr fun other mem => all other (mem_append_left _ mem)
      rw [high, all byte (by simp)]
      rfl

/-- Unused bytes are zero exactly when the number of the word fits the others. -/
theorem take_all_zero (word : List UInt8) (unused : Nat) :
    (word.take unused).all (· = 0) = true ↔ fromBeSlice word < 256 ^ (word.length - unused) := by
  have split := fromBeSlice_append (word.take unused) (word.drop unused)
  rw [take_append_drop, length_drop] at split
  have low := fromBeSlice_lt (word.drop unused)
  rw [length_drop] at low
  have zero : (word.take unused).all (· = 0) = true ↔ fromBeSlice (word.take unused) = 0 := by
    rw [fromBeSlice_eq_zero]
    simp
  rw [zero, split]
  constructor
  · intro none
    rw [none]
    simpa using low
  · intro fits
    by_contra positive
    have one : 1 * 256 ^ (word.length - unused) ≤
        fromBeSlice (word.take unused) * 256 ^ (word.length - unused) :=
      Nat.mul_le_mul_right _ (Nat.pos_of_ne_zero positive)
    omega

theorem fromBeSlice_drop {word : List UInt8} {unused : Nat}
    (zero : (word.take unused).all (· = 0) = true) :
    fromBeSlice (word.drop unused) = fromBeSlice word := by
  have none : fromBeSlice (word.take unused) = 0 := by
    rw [fromBeSlice_eq_zero]
    simpa using zero
  have split := fromBeSlice_append (word.take unused) (word.drop unused)
  rw [take_append_drop, none] at split
  omega

theorem word_eq_ok :
    word bytes index = .ok found ↔ Abi.head bytes index = some found := by
  unfold word Abi.head
  by_cases within : 4 + index * 32 + 32 ≤ bytes.length <;> simp [require, within, eq_comm]

theorem head_length
    (here : Abi.head bytes index = some found) : found.length = 32 := by
  unfold Abi.head at here
  split at here
  · cases here
    simp
    omega
  · cases here

/-- A number read by hand is the argument by its type. -/
theorem wordTail_eq_ok {unused value : Nat} {exceeds : String} :
    wordTail unused exceeds bytes index = .ok value ↔
      Abi.uint (8 * (32 - unused)) bytes index = some value := by
  have power : (256 : Nat) ^ (32 - unused) = 2 ^ (8 * (32 - unused)) := by
    rw [pow_mul]
    norm_num
  simp only [wordTail, bind_eq_ok, require_eq_ok, pure_eq_ok, exists_const, word_eq_ok, Abi.uint]
  cases here : Abi.head bytes index with
  | none => simp
  | some found =>
    have length := head_length here
    have fits := take_all_zero found unused
    rw [length, power] at fits
    simp only [Option.some.injEq, exists_eq_left', Option.map_some, Option.filter_some,
      Option.ite_none_right_eq_some, decide_eq_true_eq]
    constructor
    · rintro ⟨zero, rfl⟩
      exact ⟨fits.mp zero, (fromBeSlice_drop zero).symm⟩
    · rintro ⟨small, rfl⟩
      exact ⟨fits.mpr small, fromBeSlice_drop (fits.mpr small)⟩

/-- An address read by hand is the argument of type `address`. -/
theorem addressWord_eq_ok {address : Address} :
    addressWord bytes index = .ok address ↔ Abi.address bytes index = some address := by
  have read (value : Nat) := @wordTail_eq_ok bytes index 12 value
    "Across calldata address is not canonical"
  simp only [addressWord, bind_eq_ok, pure_eq_ok, read, Abi.address, Option.map_eq_some_iff]

/-- A wider type reads the same number. -/
theorem Abi.uint_mono {bits more value : Nat} {data : List UInt8} (le : bits ≤ more)
    (read : Abi.uint bits data index = some value) : Abi.uint more data index = some value := by
  unfold Abi.uint at read ⊢
  rw [Option.filter_eq_some_iff] at read ⊢
  have wider : 2 ^ bits ≤ 2 ^ more := Nat.pow_le_pow_right (by decide) le
  refine ⟨read.1, ?_⟩
  have small := read.2
  rw [decide_eq_true_eq] at small ⊢
  omega

/-- A number that is large enough by hand is so by its type. -/
theorem u256WordIsAtLeastU128_spec {minimum : Nat}
    (small : minimum < 2 ^ 128) (read : u256WordIsAtLeastU128 bytes index minimum = .ok true) :
    ∃ value, Abi.uint 256 bytes index = some value ∧ minimum ≤ value := by
  obtain ⟨found, here, read⟩ := bind_eq_ok.mp read
  rw [word_eq_ok] at here
  have length := head_length here
  have bound := fromBeSlice_lt found
  have fits := take_all_zero found 16
  rw [length] at bound fits
  refine ⟨fromBeSlice found, ?_, ?_⟩
  · simp only [Abi.uint, here, Option.map_some, Option.filter_some]
    rw [if_pos (decide_eq_true (by simpa using bound))]
  · split at read
    · rename_i used
      have large : ¬ fromBeSlice found < 256 ^ (32 - 16) := by
        rw [← fits]
        simpa using used
      norm_num at large small
      omega
    · rename_i unused
      have zero : (found.take 16).all (· = 0) = true := by simpa using unused
      rw [fromBeSlice_drop zero] at read
      simpa using read

end PolyBot.Bridge
