import Mathlib.Algebra.GroupWithZero.Nat
import PolyBot.Lib.Proc

/-!
# Primitive values

Addresses, hashes and the texts the journals accept as identifiers.  A `u64` is a natural number;
where the code checks one for overflow the bound stands in the definition.
-/

namespace PolyBot

/-- An account or contract address. -/
abbrev Address := BitVec 160

/-- A 256-bit hash. -/
abbrev B256 := BitVec 256

/-- `u64::MAX`. -/
def u64Max : Nat := 2 ^ 64 - 1

/-- The characters with the Unicode property `White_Space`, which `str::trim` removes. -/
def isWhiteSpace (c : Char) : Bool :=
  (9 ≤ c.toNat && c.toNat ≤ 13) || (0x2000 ≤ c.toNat && c.toNat ≤ 0x200a) ||
    [0x20, 0x85, 0xa0, 0x1680, 0x2028, 0x2029, 0x202f, 0x205f, 0x3000].contains c.toNat

/-- `text.trim().is_empty()`. -/
def isBlank (text : String) : Bool :=
  text.toList.all isWhiteSpace

/-- Every byte of `text` is an ASCII letter or digit or one of `others`.  A character outside ASCII
has no such byte. -/
def hasOnly (others : List Char) (text : String) : Bool :=
  text.toList.all fun c => c.isAlphanum || others.contains c

end PolyBot
