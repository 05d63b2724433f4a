import Mathlib.Tactic.Linarith

/-!
# Ordered maps whose values know their key

A `KeyedMap key` is an ordered map in which every value is stored under the key it carries.  The
invariant is a field, so a map that files a value under another key cannot be built, and a value
can be looked for by itself (`KeyedMap.mem_values`).

* `KeyedMap.get?_put_self`, `KeyedMap.get?_put_of_ne`: what one write changes.
* `KeyedMap.mem_values`, `KeyedMap.mem_values_put`: the values, before and after a write.
* `KeyedMap.values_perm_erase`, `KeyedMap.values_put_perm`: one value split off from the others.
* `KeyedMap.filter_values_eq_singleton`: a property that exactly one stored value has.
-/

/-- An ordered map from `κ` that stores each value under `key` of it. -/
structure KeyedMap {κ ν : Type} [Ord κ] (key : ν → κ) where
  map : Std.TreeMap κ ν
  keyed : ∀ k v, map[k]? = some v → key v = k

namespace KeyedMap

variable {κ ν : Type} [Ord κ] {key : ν → κ}

def get? (m : KeyedMap key) (k : κ) : Option ν :=
  m.map[k]?

/-- The stored values in the order of their keys. -/
def values (m : KeyedMap key) : List ν :=
  m.map.toList.map Prod.snd

theorem key_of_get? {m : KeyedMap key} {k : κ} {v : ν} (stored : m.get? k = some v) :
    key v = k :=
  m.keyed k v stored

variable [Std.TransOrd κ]

/-- The map without entries. -/
def empty : KeyedMap key where
  map := ∅
  keyed := by simp

@[simp]
theorem get?_empty (k : κ) : (empty : KeyedMap key).get? k = none := by
  simp [get?, empty]

variable [Std.LawfulEqOrd κ] (m : KeyedMap key)

/-- Stores a value under its own key, in place of what was there. -/
def put (v : ν) : KeyedMap key where
  map := m.map.insert (key v) v
  keyed := by
    intro k w stored
    rw [Std.TreeMap.getElem?_insert] at stored
    split at stored
    · rename_i same
      cases stored
      exact Std.LawfulEqOrd.eq_of_compare same
    · exact m.keyed k w stored

theorem get?_put_self (v : ν) : (m.put v).get? (key v) = some v := by
  simp [get?, put]

theorem get?_put_of_ne {v : ν} {k : κ} (ne : key v ≠ k) : (m.put v).get? k = m.get? k := by
  simp [get?, put, Std.TreeMap.getElem?_insert, ne]

theorem get?_put [DecidableEq κ] (v : ν) (k : κ) :
    (m.put v).get? k = if key v = k then some v else m.get? k := by
  split
  · subst k
    exact get?_put_self m v
  · exact get?_put_of_ne m ‹_›

/-- Forgets the value under a key. -/
def erase (m : KeyedMap key) (k : κ) : KeyedMap key where
  map := m.map.erase k
  keyed := by
    intro l w stored
    rw [Std.TreeMap.getElem?_erase] at stored
    split at stored
    · cases stored
    · exact m.keyed l w stored

theorem get?_erase_self (k : κ) : (m.erase k).get? k = none := by
  simp [get?, erase]

theorem get?_erase_of_ne {k l : κ} (ne : k ≠ l) : (m.erase k).get? l = m.get? l := by
  simp [get?, erase, Std.TreeMap.getElem?_erase, ne]

theorem nodup_values : m.values.Nodup := by
  unfold values List.Nodup
  rw [List.pairwise_map]
  refine List.Pairwise.imp_of_mem ?_ (Std.TreeMap.distinct_keys_toList (t := m.map))
  intro a b ha hb distinct same
  have keyA := m.keyed a.1 a.2 (Std.TreeMap.mem_toList_iff_getElem?_eq_some.mp ha)
  have keyB := m.keyed b.1 b.2 (Std.TreeMap.mem_toList_iff_getElem?_eq_some.mp hb)
  apply distinct
  rw [← keyA, ← keyB, same]
  exact Std.compare_self

variable {m} {k : κ} {v w : ν} {p : ν → Bool}

theorem mem_values : v ∈ m.values ↔ m.get? (key v) = some v := by
  constructor
  · intro mem
    obtain ⟨⟨k, w⟩, entry, rfl⟩ := List.mem_map.mp mem
    have stored := Std.TreeMap.mem_toList_iff_getElem?_eq_some.mp entry
    rw [m.keyed k w stored]
    exact stored
  · intro stored
    exact List.mem_map.mpr
      ⟨(key v, v), Std.TreeMap.mem_toList_iff_getElem?_eq_some.mpr stored, rfl⟩

theorem mem_values_of_get? (stored : m.get? k = some v) : v ∈ m.values := by
  rw [mem_values, key_of_get? stored]
  exact stored

@[simp]
theorem values_empty : (empty : KeyedMap key).values = [] := by
  apply List.eq_nil_iff_forall_not_mem.mpr
  intro v mem
  simp [mem_values] at mem

/-- After a write the values are the written one and those under other keys. -/
theorem mem_values_put :
    w ∈ (m.put v).values ↔ w = v ∨ key v ≠ key w ∧ w ∈ m.values := by
  rw [mem_values, mem_values]
  by_cases same : key v = key w
  · rw [← same, get?_put_self]
    simp [same, eq_comm]
  · rw [get?_put_of_ne m same]
    have ne : w ≠ v := fun eq => same (by rw [eq])
    simp [same, ne]

/-- Two stored values under one key are one value. -/
theorem eq_of_mem_values (hv : v ∈ m.values) (hw : w ∈ m.values)
    (same : key v = key w) : v = w := by
  rw [mem_values] at hv hw
  rw [same, hw] at hv
  exact (Option.some.inj hv).symm

theorem mem_values_erase :
    v ∈ (m.erase k).values ↔ k ≠ key v ∧ v ∈ m.values := by
  rw [mem_values, mem_values]
  by_cases same : k = key v
  · simp [same, get?_erase_self]
  · simp [same, get?_erase_of_ne]

/-- The values of a map are the one under a key and those of the map without the key. -/
theorem values_perm_erase (stored : m.get? k = some v) :
    m.values.Perm (v :: (m.erase k).values) := by
  have same : key v = k := key_of_get? stored
  have absent : v ∉ (m.erase k).values := fun mem => (mem_values_erase.mp mem).1 same.symm
  refine (List.perm_ext_iff_of_nodup m.nodup_values
    (List.nodup_cons.mpr ⟨absent, nodup_values _⟩)).mpr ?_
  intro w
  rw [List.mem_cons, mem_values_erase]
  constructor
  · intro mem
    by_cases here : k = key w
    · exact Or.inl (eq_of_mem_values mem (mem_values_of_get? stored) (by rw [same, here]))
    · exact Or.inr ⟨here, mem⟩
  · rintro (rfl | ⟨-, mem⟩)
    · exact mem_values_of_get? stored
    · exact mem

theorem values_put_perm (m : KeyedMap key) (v : ν) :
    (m.put v).values.Perm (v :: (m.erase (key v)).values) := by
  have absent : v ∉ (m.erase (key v)).values := fun mem => (mem_values_erase.mp mem).1 rfl
  refine (List.perm_ext_iff_of_nodup (nodup_values _)
    (List.nodup_cons.mpr ⟨absent, nodup_values _⟩)).mpr ?_
  intro w
  rw [List.mem_cons, mem_values_put, mem_values_erase]

/-- Forgetting a key that is not there leaves the values as they are. -/
theorem values_erase_perm_of_absent (absent : m.get? k = none) :
    (m.erase k).values.Perm m.values := by
  refine (List.perm_ext_iff_of_nodup (nodup_values _) (nodup_values _)).mpr ?_
  intro w
  rw [mem_values_erase, and_iff_right_iff_imp]
  intro mem here
  rw [mem_values, ← here, absent] at mem
  cases mem

/-- The values are the one under a key, if any, and the rest. -/
theorem values_perm_get?_erase (m : KeyedMap key) (k : κ) :
    m.values.Perm ((m.get? k).toList ++ (m.erase k).values) := by
  cases stored : m.get? k with
  | none => exact (values_erase_perm_of_absent stored).symm
  | some v => exact values_perm_erase stored

/-- When exactly one stored value has a property, filtering by it leaves that value alone. -/
theorem filter_values_eq_singleton
    (only : ∀ w, w ∈ m.values ∧ p w = true ↔ w = v) : m.values.filter p = [v] := by
  have nodup := m.nodup_values.filter p
  have mem : ∀ w, w ∈ m.values.filter p ↔ w = v := by
    intro w
    rw [List.mem_filter]
    exact only w
  refine List.perm_singleton.mp ?_
  exact (List.perm_ext_iff_of_nodup nodup (List.pairwise_singleton _ v)).mpr (by simp [mem])

/-- A write of a value with a property that no value under another key has. -/
theorem filter_values_put_eq_singleton
    (others : ∀ w ∈ m.values, p w = true → key w = key v) (has : p v = true) :
    (m.put v).values.filter p = [v] := by
  apply filter_values_eq_singleton
  intro w
  rw [mem_values_put]
  constructor
  · rintro ⟨rfl | ⟨ne, mem⟩, hasW⟩
    · rfl
    · exact absurd (others w mem hasW).symm ne
  · rintro rfl
    exact ⟨Or.inl rfl, has⟩

/-- A write of a value without a property that no value under another key has. -/
theorem filter_values_put_eq_nil
    (others : ∀ w ∈ m.values, p w = true → key w = key v) (lacks : p v = false) :
    (m.put v).values.filter p = [] := by
  rw [List.filter_eq_nil_iff]
  intro w mem hasW
  rcases mem_values_put.mp mem with rfl | ⟨ne, mem⟩
  · simp [lacks] at hasW
  · exact ne (others w mem hasW).symm

end KeyedMap
