import Mathlib.Tactic.Linarith

/-!
# Decimal texts

A number is written in decimal digits only, in as many bytes as it has digits, and different
numbers have different texts.
-/

namespace Decimal

theorem utf8ByteSize_ofList_ascii {cs : List Char} (ascii : ∀ c ∈ cs, c.utf8Size = 1) :
    (String.ofList cs).utf8ByteSize = cs.length := by
  induction cs with
  | nil => rfl
  | cons c cs ih =>
    rw [← List.singleton_append, String.ofList_append, String.utf8ByteSize_append,
      ih (fun d mem => ascii d (List.mem_cons_of_mem _ mem))]
    have single : (String.ofList [c]).utf8ByteSize = c.utf8Size := by
      rw [← String.singleton_eq_ofList, String.utf8ByteSize_singleton]
    rw [single, ascii c List.mem_cons_self, List.length_append, List.length_singleton]

variable {c : Char} {n : Nat}

theorem utf8Size_of_isDigit (digit : c.isDigit = true) : c.utf8Size = 1 := by
  rw [Char.isDigit, Bool.and_eq_true, decide_eq_true_eq, decide_eq_true_eq] at digit
  have nine : '9'.val ≤ 127 := by decide
  exact if_pos (UInt32.le_trans digit.2 nine)

theorem isDigit_of_mem_repr (mem : c ∈ n.repr.toList) : c.isDigit = true := by
  rw [Nat.toList_repr] at mem
  exact Nat.isDigit_of_mem_toDigits (by omega) le_rfl mem

theorem utf8ByteSize_repr_le {k : Nat} (positive : 0 < k) (below : n < 10 ^ k) :
    n.repr.utf8ByteSize ≤ k := by
  have digits : ∀ c ∈ Nat.toDigits 10 n, c.utf8Size = 1 := fun c mem =>
    utf8Size_of_isDigit (Nat.isDigit_of_mem_toDigits (by omega) le_rfl mem)
  rw [Nat.repr_eq_ofList_toDigits, utf8ByteSize_ofList_ascii digits]
  exact (Nat.length_toDigits_le_iff (by omega) positive).mpr below

theorem repr_injective {m : Nat} (same : m.repr = n.repr) : m = n := by
  have digits : Nat.toDigits 10 m = Nat.toDigits 10 n := by
    rw [← Nat.toList_repr, ← Nat.toList_repr, same]
  rw [← Nat.ofDigitChars_ten_toDigits (n := m), digits, Nat.ofDigitChars_ten_toDigits]

end Decimal
