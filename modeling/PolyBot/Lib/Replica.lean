import Mathlib.Tactic.Linarith

/-!
# Replicas of a numbered history

A table changes in numbered steps.  A replica that has the table at one number catches up with a
list of entries that carries, for every key changed since, its value at a later number.  Such a list
may reach back before the replica's number and may name keys that did not change.

* `overlay`: the entries of a list written over a table, the last of a key winning.
* `History.tableAt_eq_of_unchanged`: a key without a change keeps its value.
* `History.Delta.overlay_eq`: catching up.
-/

section Overlay

variable {κ ν : Type} [DecidableEq κ]

/-- The table with the entries of a list written over it in order. -/
def overlay (table : κ → ν) (entries : List (κ × ν)) : κ → ν :=
  entries.foldl (fun table entry => Function.update table entry.1 entry.2) table

@[simp]
theorem overlay_nil (table : κ → ν) : overlay table [] = table :=
  rfl

@[simp]
theorem overlay_cons (table : κ → ν) (entry : κ × ν) (entries : List (κ × ν)) :
    overlay table (entry :: entries) = overlay (Function.update table entry.1 entry.2) entries :=
  rfl

variable {table target : κ → ν} {entries : List (κ × ν)} {key : κ}

theorem overlay_of_not_mem
    (absent : key ∉ entries.map Prod.fst) : overlay table entries key = table key := by
  induction entries generalizing table with
  | nil => rfl
  | cons entry entries ih =>
    rw [List.map_cons, List.mem_cons, not_or] at absent
    rw [overlay_cons, ih absent.2, Function.update_of_ne absent.1]

/-- A named key has the value of one of its entries. -/
theorem exists_overlay_eq
    (named : key ∈ entries.map Prod.fst) :
    ∃ entry ∈ entries, entry.1 = key ∧ overlay table entries key = entry.2 := by
  induction entries generalizing table with
  | nil => cases named
  | cons entry entries ih =>
    rw [overlay_cons]
    by_cases later : key ∈ entries.map Prod.fst
    · obtain ⟨last, mem, same, value⟩ := ih later
      exact ⟨last, List.mem_cons_of_mem _ mem, same, value⟩
    -- the entry at hand is the last one of its key
    · have here : key = entry.1 := by
        rw [List.map_cons, List.mem_cons] at named
        exact named.resolve_right later
      refine ⟨entry, List.mem_cons_self, here.symm, ?_⟩
      rw [overlay_of_not_mem later, here, Function.update_self]

/-- Entries that are all taken from one table carry it over. -/
theorem overlay_of_agrees
    (agrees : ∀ entry ∈ entries, entry.2 = target entry.1) (named : key ∈ entries.map Prod.fst) :
    overlay table entries key = target key := by
  obtain ⟨entry, mem, named, value⟩ := exists_overlay_eq named
  rw [value, agrees entry mem, named]

end Overlay

/-- A table that changes in numbered steps; step `n` writes the entries `changes n`. -/
structure History (κ ν : Type) where
  initial : κ → ν
  changes : Nat → List (κ × ν)

namespace History

variable {κ ν : Type} [DecidableEq κ]

/-- The table after the steps `1` to `n`. -/
def tableAt (history : History κ ν) : Nat → κ → ν
  | 0 => history.initial
  | n + 1 => overlay (history.tableAt n) (history.changes (n + 1))

/-- The step with a number changes a key. -/
def Changes (history : History κ ν) (n : Nat) (key : κ) : Prop :=
  key ∈ (history.changes n).map Prod.fst

theorem tableAt_eq_of_unchanged {history : History κ ν} {start finish : Nat} {key : κ}
    (le : start ≤ finish)
    (unchanged : ∀ n, start < n → n ≤ finish → ¬history.Changes n key) :
    history.tableAt finish key = history.tableAt start key := by
  induction finish, le using Nat.le_induction with
  | base => rfl
  | succ finish le ih =>
    have last : ¬history.Changes (finish + 1) key := unchanged (finish + 1) (by omega) le_rfl
    rw [tableAt, overlay_of_not_mem last]
    exact ih fun n after upTo => unchanged n after (by omega)

/-- The entries carry for every key changed by the steps `first` to `final` its value after step
`final`. -/
structure Delta (history : History κ ν) (first final : Nat) (entries : List (κ × ν)) : Prop where
  values : ∀ entry ∈ entries, entry.2 = history.tableAt final entry.1
  covers : ∀ n, first ≤ n → n ≤ final → ∀ key, history.Changes n key → key ∈ entries.map Prod.fst

/-- A replica at `start` catches up with a delta that begins at the next step or before it. -/
theorem Delta.overlay_eq {history : History κ ν} {first final start : Nat}
    {entries : List (κ × ν)} (delta : history.Delta first final entries)
    (reachesBack : first ≤ start + 1) (le : start ≤ final) :
    overlay (history.tableAt start) entries = history.tableAt final := by
  funext key
  by_cases named : key ∈ entries.map Prod.fst
  · exact overlay_of_agrees delta.values named
  · rw [overlay_of_not_mem named]
    refine (tableAt_eq_of_unchanged le ?_).symm
    intro n after upTo changed
    exact named (delta.covers n (by omega) upTo key changed)

end History
