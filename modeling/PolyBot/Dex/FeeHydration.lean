import PolyBot.Dex.FeeProjection

/-!
# Hydration of the timepoints

At start the bot reads a few slots of the pool's ring: those next to the latest one, slot 0, and the
probes of one binary search for each second of the fee horizon, each of which brackets one start of
the 24-hour window.  The ring is what the chain holds; reading a slot is looking at it.

* `hydrateTimepoints_reads`: what is held after hydration is what the ring has in that slot.
-/

namespace PolyBot.Dex

open Std

/-- Reads slots of the ring into the held points. -/
def readTimepoints (ring : Nat → Timepoint) (slots : List Nat)
    (points : TreeMap Nat Timepoint) : TreeMap Nat Timepoint :=
  slots.foldl (fun points slot => points.insert slot (ring slot)) points

/-- The binary search for the two neighbouring slots around `target`.  The interval shrinks in every
round, so the fuel `right + 1 - left` runs out exactly when the interval is empty. -/
def bracketSearch (ring : Nat → Timepoint) (currentTime target : Nat) :
    Nat → Nat → Nat → TreeMap Nat Timepoint → Except String (TreeMap Nat Timepoint)
  | 0, _, _, _ => .error "Camelot timepoint binary search exhausted"
  | fuel + 1, left, right, points => do
    require (left ≤ right) "Camelot timepoint binary search exhausted"
    let middle := (left + right) >>> 1
    let beforeIndex := middle % ringSize
    let afterIndex := nextSlot beforeIndex
    let before := ring beforeIndex
    let after := ring afterIndex
    let points := readTimepoints ring [beforeIndex, afterIndex] points
    if (before.initialized && lteConsideringOverflow before.blockTimestamp target currentTime) = true
    then
      if (after.initialized && lteConsideringOverflow target after.blockTimestamp currentTime) = true
      then return points
      else bracketSearch ring currentTime target fuel (middle + 1) right points
    else do
      require (middle ≠ 0) "Camelot timepoint binary search underflow"
      bracketSearch ring currentTime target fuel left (middle - 1) points

def hydrateTimepointBracket (ring : Nat → Timepoint) (index oldestIndex currentTime target : Nat)
    (points : TreeMap Nat Timepoint) : Except String (TreeMap Nat Timepoint) := do
  let oldest ← orError points[oldestIndex]? "Camelot oldest timepoint is missing"
  let latest ← orError points[index]? "Camelot latest timepoint is missing"
  require ((lteConsideringOverflow oldest.blockTimestamp target currentTime &&
      lteConsideringOverflow target latest.blockTimestamp currentTime) = true)
    "Camelot fee window target is outside hydrated history"
  let right := if oldestIndex ≤ index then index else index + ringSize
  bracketSearch ring currentTime target (right + 1 - oldestIndex) oldestIndex right points

def seedIndices (index : Nat) : List Nat :=
  [index, previousSlot index, nextSlot index, nextSlot (nextSlot index), 0]

/-- The bracket of the window start `offset` seconds after the head. -/
def hydrateOffset (ring : Nat → Timepoint) (index oldestIndex headTimestamp : Nat)
    (points : TreeMap Nat Timepoint) (offset : Nat) :
    Except String (TreeMap Nat Timepoint) := do
  let timestamp ← orError (checkedAdd 32 headTimestamp offset)
    "Camelot fee horizon timestamp overflow"
  hydrateTimepointBracket ring index oldestIndex headTimestamp
    (wrappingSub 32 timestamp 86400) points

/-- The oldest slot and the points held after hydration. -/
def hydrateTimepoints (ring : Nat → Timepoint) (index headTimestamp horizon : Nat) :
    Except String (Nat × TreeMap Nat Timepoint) := do
  let points := readTimepoints ring (seedIndices index) ∅
  let oldestIndex :=
    if FeeProjectionState.initializedAt points (nextSlot index) then nextSlot index else 0
  require (FeeProjectionState.initializedAt points oldestIndex = true)
    "Camelot oldest timepoint is unavailable"
  let points ← (List.range (horizon + 1)).foldlM
    (hydrateOffset ring index oldestIndex headTimestamp) points
  return (oldestIndex, points)

/-- Every held point is the one the ring has in its slot. -/
def ReadFrom (ring : Nat → Timepoint) (points : TreeMap Nat Timepoint) : Prop :=
  ∀ slot point, points[slot]? = some point → slot < ringSize ∧ point = ring slot

theorem nextSlot_lt (index : Nat) : nextSlot index < ringSize :=
  Nat.mod_lt _ (by decide)

theorem previousSlot_lt (index : Nat) : previousSlot index < ringSize :=
  Nat.mod_lt _ (by decide)

section Reads

variable {ring : Nat → Timepoint} {points points' : TreeMap Nat Timepoint}

theorem ReadFrom.insert (read : ReadFrom ring points) {slot : Nat} (inRing : slot < ringSize) :
    ReadFrom ring (points.insert slot (ring slot)) := by
  intro other point found
  rw [TreeMap.getElem?_insert] at found
  split at found
  · rename_i same
    have eq := Std.LawfulEqOrd.eq_of_compare same
    subst eq
    exact ⟨inRing, (Option.some.inj found).symm⟩
  · exact read other point found

theorem ReadFrom.readTimepoints {slots : List Nat} (inRing : ∀ slot ∈ slots, slot < ringSize)
    (read : ReadFrom ring points) : ReadFrom ring (readTimepoints ring slots points) := by
  induction slots generalizing points with
  | nil => exact read
  | cons slot slots ih =>
    have head := read.insert (inRing slot (List.mem_cons_self ..))
    exact ih (fun other mem => inRing other (List.mem_cons_of_mem _ mem)) head

theorem ReadFrom.bracketSearch {currentTime target fuel left right : Nat}
    (read : ReadFrom ring points)
    (found : bracketSearch ring currentTime target fuel left right points = .ok points') :
    ReadFrom ring points' := by
  induction fuel generalizing left right points with
  | zero => simp [PolyBot.Dex.bracketSearch] at found
  | succ fuel ih =>
    have probed : ReadFrom ring (PolyBot.Dex.readTimepoints ring
        [((left + right) >>> 1) % ringSize, nextSlot (((left + right) >>> 1) % ringSize)]
        points) := by
      apply read.readTimepoints
      intro slot mem
      simp only [List.mem_cons, List.not_mem_nil, or_false] at mem
      rcases mem with eq | eq <;> rw [eq]
      · exact Nat.mod_lt _ (by decide)
      · exact nextSlot_lt _
    simp only [PolyBot.Dex.bracketSearch, bind_eq_ok, require_eq_ok] at found
    obtain ⟨_, _, found⟩ := found
    split at found
    · split at found
      · cases found
        exact probed
      · exact ih probed found
    · simp only [bind_eq_ok, require_eq_ok] at found
      obtain ⟨_, _, found⟩ := found
      exact ih probed found

theorem ReadFrom.hydrateOffset {index oldestIndex headTimestamp offset : Nat}
    (read : ReadFrom ring points)
    (found : hydrateOffset ring index oldestIndex headTimestamp points offset = .ok points') :
    ReadFrom ring points' := by
  simp only [PolyBot.Dex.hydrateOffset, hydrateTimepointBracket, bind_eq_ok, require_eq_ok,
    orError_eq_ok] at found
  obtain ⟨_, _, _, _, _, _, _, _, found⟩ := found
  exact read.bracketSearch found

end Reads

/-- Hydration holds only points of the ring, and its oldest slot is the one after the latest when
that one has been written. -/
theorem hydrateTimepoints_reads {ring : Nat → Timepoint} {index headTimestamp horizon : Nat}
    {oldestIndex : Nat} {points : TreeMap Nat Timepoint} (inRing : index < ringSize)
    (hydrated : hydrateTimepoints ring index headTimestamp horizon = .ok (oldestIndex, points)) :
    ReadFrom ring points := by
  simp only [hydrateTimepoints, bind_eq_ok, require_eq_ok, pure_eq_ok, Prod.mk.injEq] at hydrated
  obtain ⟨_, _, final, folded, rfl, rfl⟩ := hydrated
  have seeds : ReadFrom ring (readTimepoints ring (seedIndices index) ∅) := by
    apply ReadFrom.readTimepoints
    · intro slot mem
      simp only [seedIndices, List.mem_cons, List.not_mem_nil, or_false] at mem
      rcases mem with eq | eq | eq | eq | eq <;> rw [eq]
      · exact inRing
      · exact previousSlot_lt _
      · exact nextSlot_lt _
      · exact nextSlot_lt _
      · decide
    · intro slot point found
      simp at found
  exact foldlM_invariant (fun points offset _ points' read found => read.hydrateOffset found)
    seeds folded

end PolyBot.Dex
