import Mathlib.Tactic.Linarith

/-!
# Round robin

A cursor walks around `n` slots.  `RoundRobin.ahead` is how many slots it passes before it comes to
one of them; every slot it stops at on the way brings that one nearer.

* `RoundRobin.slotAt_ahead`: the cursor comes to the slot after that many.
* `RoundRobin.ahead_after`: the cursor moved behind a slot on the way.
-/

namespace RoundRobin

/-- The slot that is `offset` ahead of the cursor. -/
def slotAt (n cursor offset : Nat) : Nat :=
  (cursor + offset) % n

/-- How many slots stand between the cursor and a slot. -/
def ahead (n cursor slot : Nat) : Nat :=
  if cursor ≤ slot then slot - cursor else slot + n - cursor

variable {n cursor offset slot : Nat}

theorem slotAt_lt (occupied : 0 < n) : slotAt n cursor offset < n :=
  Nat.mod_lt _ occupied

/-- Within one round the cursor wraps at most once. -/
theorem slotAt_eq (cursorIn : cursor < n) (round : offset ≤ n) :
    slotAt n cursor offset = if cursor + offset < n then cursor + offset else cursor + offset - n := by
  unfold slotAt
  split
  · exact Nat.mod_eq_of_lt ‹_›
  · rw [Nat.mod_eq_sub_mod (by omega)]
    exact Nat.mod_eq_of_lt (by omega)

theorem ahead_lt (cursorIn : cursor < n) (slotIn : slot < n) : ahead n cursor slot < n := by
  unfold ahead
  split <;> omega

theorem slotAt_ahead (cursorIn : cursor < n) (slotIn : slot < n) :
    slotAt n cursor (ahead n cursor slot) = slot := by
  rw [slotAt_eq cursorIn (ahead_lt cursorIn slotIn).le]
  unfold ahead
  split <;> split <;> omega

/-- A slot on the way brings the cursor behind itself, and so nearer to the slot ahead. -/
theorem ahead_after (cursorIn : cursor < n) (slotIn : slot < n)
    (onTheWay : offset < ahead n cursor slot) :
    ahead n (slotAt n (slotAt n cursor offset) 1) slot + offset + 1 = ahead n cursor slot := by
  have within := ahead_lt cursorIn slotIn
  have served : slotAt n cursor offset < n := slotAt_lt (by omega)
  rw [slotAt_eq served (by omega)]
  rw [slotAt_eq cursorIn (by omega)] at served ⊢
  unfold ahead at onTheWay within ⊢
  split_ifs at * <;> omega

end RoundRobin
