import Mathlib.Tactic.Linarith

/-!
# Totals kept per key

A tally keeps, for every key, the sum of the amounts that were entered on it, in machine words of
`w` bits.  A key whose amounts are all gone is not stored.

* `Tally.Exact`: the totals are the sums of a list of entries, and no stored total is zero.
* `Tally.Exact.enter`, `Tally.Exact.withdraw`: one entry more and one entry less.
* `Tally.Exact.le_total`: a total covers each entry it sums.
-/

abbrev Tally (κ : Type) (w : Nat) [Ord κ] := Std.TreeMap κ (BitVec w)

namespace Tally

variable {κ : Type} {w : Nat}

section Sums

variable [DecidableEq κ]

/-- The sum of the entries on one key. -/
def sumOn (k : κ) (entries : List (κ × BitVec w)) : Nat :=
  ((entries.filter (·.1 = k)).map (·.2.toNat)).sum

theorem sumOn_cons_self (k : κ) (a : BitVec w) (entries : List (κ × BitVec w)) :
    sumOn k ((k, a) :: entries) = a.toNat + sumOn k entries := by
  simp [sumOn]

theorem sumOn_cons_of_ne {k l : κ} (a : BitVec w) (entries : List (κ × BitVec w)) (ne : l ≠ k) :
    sumOn k ((l, a) :: entries) = sumOn k entries := by
  simp [sumOn, ne]

theorem sumOn_perm {k : κ} {xs ys : List (κ × BitVec w)} (perm : xs.Perm ys) :
    sumOn k xs = sumOn k ys :=
  ((perm.filter _).map _).sum_nat

theorem sumOn_append (k : κ) (xs ys : List (κ × BitVec w)) :
    sumOn k (xs ++ ys) = sumOn k xs + sumOn k ys := by
  simp [sumOn]

theorem sumOn_eq_zero {k : κ} {entries : List (κ × BitVec w)} (absent : k ∉ entries.map Prod.fst) :
    sumOn k entries = 0 := by
  have none : entries.filter (·.1 = k) = [] := by
    apply List.filter_eq_nil_iff.mpr
    intro entry mem here
    exact absent (List.mem_map.mpr ⟨entry, mem, by simpa using here⟩)
  simp [sumOn, none]

theorem le_sumOn {k : κ} {a : BitVec w} {entries : List (κ × BitVec w)}
    (mem : (k, a) ∈ entries) : a.toNat ≤ sumOn k entries := by
  obtain ⟨before, after, rfl⟩ := List.append_of_mem mem
  rw [sumOn_perm List.perm_middle, sumOn_cons_self]
  omega

end Sums

variable [Ord κ]

/-- The total on a key, zero where nothing is stored. -/
def total (t : Tally κ w) (k : κ) : BitVec w :=
  t[k]?.getD 0

theorem total_insert [Std.TransOrd κ] [Std.LawfulEqOrd κ] [DecidableEq κ] (t : Tally κ w) (k l : κ)
    (a : BitVec w) : total (t.insert k a) l = if k = l then a else t.total l := by
  unfold total
  rw [Std.TreeMap.getElem?_insert]
  by_cases same : k = l <;> simp [same]

/-- The total on a key becomes `left`; a key without an amount is dropped. -/
def lower (t : Tally κ w) (k : κ) (left : BitVec w) : Tally κ w :=
  if left = 0 then t.erase k else t.insert k left

section Lower

variable [Std.TransOrd κ] [Std.LawfulEqOrd κ] {t : Tally κ w} {k : κ} {left : BitVec w}

theorem getElem?_lower_of_ne {l : κ} (ne : l ≠ k) :
    (t.lower k left)[l]? = t[l]? := by
  unfold lower
  split
  · simp [Std.TreeMap.getElem?_erase, Ne.symm ne]
  · simp [Std.TreeMap.getElem?_insert, Ne.symm ne]

theorem total_lower_self : (t.lower k left).total k = left := by
  unfold lower total
  split
  · rename_i zero
    simp [zero]
  · simp

theorem getElem?_lower_ne_zero : (t.lower k left)[k]? ≠ some 0 := by
  unfold lower
  split
  · simp
  · rename_i positive
    simpa using positive

end Lower

variable [DecidableEq κ]

/-- The tally `t` is the tally of `entries`. -/
structure Exact (t : Tally κ w) (entries : List (κ × BitVec w)) : Prop where
  total_eq : ∀ k, (t.total k).toNat = sumOn k entries
  nonzero : ∀ k : κ, t[k]? ≠ some 0

variable {t t' : Tally κ w} {entries : List (κ × BitVec w)} {k : κ} {a : BitVec w}

theorem Exact.perm (exact : Exact t entries) {others : List (κ × BitVec w)}
    (perm : entries.Perm others) : Exact t others where
  total_eq := fun k => (exact.total_eq k).trans (sumOn_perm perm)
  nonzero := exact.nonzero

theorem Exact.le_total (exact : Exact t entries) (mem : (k, a) ∈ entries) :
    a.toNat ≤ (t.total k).toNat := by
  rw [exact.total_eq]
  exact le_sumOn mem

/-- A larger total on one key is the tally of one entry more. -/
theorem Exact.enter (exact : Exact t entries) (fits : (t.total k).toNat + a.toNat < 2 ^ w)
    (positive : a ≠ 0) (here : t'[k]? = some (t.total k + a))
    (elsewhere : ∀ l, l ≠ k → t'[l]? = t[l]?) : Exact t' ((k, a) :: entries) := by
  have sum : (t.total k + a).toNat = (t.total k).toNat + a.toNat := by
    rw [BitVec.toNat_add]
    exact Nat.mod_eq_of_lt fits
  have amount : a.toNat ≠ 0 := fun zero => positive (BitVec.eq_of_toNat_eq (by simpa using zero))
  constructor
  · intro l
    by_cases same : l = k
    · subst same
      have := exact.total_eq l
      rw [sumOn_cons_self, total, here, Option.getD_some, sum]
      omega
    · rw [sumOn_cons_of_ne a entries (Ne.symm same), ← exact.total_eq, total, elsewhere l same]
      rfl
  · intro l stored
    by_cases same : l = k
    · subst same
      rw [here, Option.some.injEq] at stored
      have zero : (t.total l + a).toNat = 0 := by simp [stored]
      omega
    · rw [elsewhere l same] at stored
      exact exact.nonzero l stored

variable [Std.TransOrd κ]

theorem exact_empty : Exact (∅ : Tally κ w) [] where
  total_eq := by simp [total, sumOn]
  nonzero := by simp

variable [Std.LawfulEqOrd κ]

/-- A stored total covers an entry it sums, and without it is the tally of the other entries. -/
theorem Exact.withdraw (exact : Exact t ((k, a) :: entries)) (positive : a ≠ 0) :
    ∃ held, t[k]? = some held ∧ a ≤ held ∧ Exact (t.lower k (held - a)) entries := by
  have amount : a.toNat ≠ 0 := fun zero => positive (BitVec.eq_of_toNat_eq (by simpa using zero))
  have sum := exact.total_eq k
  rw [sumOn_cons_self] at sum
  rcases stored : t[k]? with _ | held
  · rw [total, stored] at sum
    simp at sum
    omega
  rw [total, stored, Option.getD_some] at sum
  have covered : a ≤ held := by
    rw [BitVec.le_def]
    omega
  have left : (held - a).toNat = sumOn k entries := by
    rw [BitVec.toNat_sub_of_le covered]
    omega
  refine ⟨held, rfl, covered, ?_, ?_⟩
  · intro l
    by_cases same : l = k
    · subst same
      rw [total_lower_self, left]
    · rw [total, getElem?_lower_of_ne same, ← sumOn_cons_of_ne a entries (Ne.symm same)]
      exact exact.total_eq l
  · intro l
    by_cases same : l = k
    · subst same
      exact getElem?_lower_ne_zero
    · rw [getElem?_lower_of_ne same]
      exact exact.nonzero l

end Tally
