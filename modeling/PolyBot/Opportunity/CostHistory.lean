import Mathlib.Data.List.Dedup
import Mathlib.Data.List.Induction

/-!
# Cost samples by time

The cost telemetry keeps its latest samples in an array of fixed size, from the newest to the
oldest.  They arrive in any order: a sample replaces the one of its own time, or moves those that
are older one slot on, and the last one of a full array is dropped.

* `recorded`: the same without a bound, as a list.
* `insertInto_slots`: the array is the beginning of that list.
* `cost_history_keeps_newest`: what an array holds, and what is found in it, after any inserts.
-/

namespace PolyBot.Opportunity

open List

section

variable {T : Type} (sampleTime : T → Nat)

/-- The loop that moves the samples of `count` slots, from the last one back, one slot on. -/
def shiftFrom (index count : Nat) (samples : List (Option T)) : List (Option T) :=
  (range' (index + 1) count).reverse.foldl
    (fun samples index => samples.set index (samples.getD (index - 1) none)) samples

/-- `TemporalHistory::insert` on the slots of the array. -/
def insertInto (samples : List (Option T)) (sample : T) : List (Option T) :=
  let timestamp := sampleTime sample
  match samples.findIdx? (·.any (sampleTime · = timestamp)) with
  | some index => samples.set index (some sample)
  | none =>
    let capacity := samples.length
    let insertionIndex := (samples.findIdx? (·.all (sampleTime · < timestamp))).getD capacity
    if insertionIndex = capacity then samples
    else (shiftFrom insertionIndex (capacity - (insertionIndex + 1)) samples).set insertionIndex
      (some sample)

theorem length_shiftFrom (index count : Nat) (samples : List (Option T)) :
    (shiftFrom index count samples).length = samples.length := by
  unfold shiftFrom
  induction (range' (index + 1) count).reverse generalizing samples with
  | nil => rfl
  | cons _ _ ih => rw [foldl_cons, ih, length_set]

theorem length_insertInto (samples : List (Option T)) (sample : T) :
    (insertInto sampleTime samples sample).length = samples.length := by
  simp only [insertInto]
  split
  · exact length_set
  · split
    · rfl
    · rw [length_set, length_shiftFrom]

/-- From the newest to the oldest, one sample for each time. -/
def Descending (samples : List T) : Prop :=
  samples.Pairwise fun later earlier => sampleTime earlier < sampleTime later

/-- A sample enters all samples so far. -/
def recorded (sample : T) : List T → List T
  | [] => [sample]
  | first :: rest =>
    if sampleTime first < sampleTime sample then sample :: first :: rest
    else if sampleTime first = sampleTime sample then sample :: rest
    else first :: recorded sample rest

/-- The slots of an array that holds the beginning of a list. -/
def slots (N : Nat) (samples : List T) : List (Option T) :=
  (range N).map (samples[·]?)

/-- The last of the samples inserted for its time. -/
def LastInserted (inserted : List T) (sample : T) : Prop :=
  inserted.reverse.find? (sampleTime · = sampleTime sample) = some sample

end

/-- `TemporalHistory<T, N>`: as many slots as its capacity. -/
structure TemporalHistory (T : Type) (N : Nat) where
  samples : List (Option T)
  full : samples.length = N

variable {T : Type} {sampleTime : T → Nat} {sample first : T} {rest samples : List T} {N : Nat}

namespace TemporalHistory

def default : TemporalHistory T N :=
  ⟨replicate N none, length_replicate⟩

def insert (sampleTime : T → Nat) (history : TemporalHistory T N) (sample : T) :
    TemporalHistory T N :=
  ⟨insertInto sampleTime history.samples sample, (length_insertInto ..).trans history.full⟩

def atOrBefore (history : TemporalHistory T N) (timestamp : Nat) (sampleTime : T → Nat) :
    Option T :=
  (history.samples.filterMap id).find? (sampleTime · ≤ timestamp)

end TemporalHistory

/-! ## All samples -/

theorem mem_recorded (descending : Descending sampleTime samples) (sample other : T) :
    other ∈ recorded sampleTime sample samples ↔
      other = sample ∨ other ∈ samples ∧ sampleTime other ≠ sampleTime sample := by
  induction samples with
  | nil => simp [recorded]
  | cons first rest ih =>
    obtain ⟨newer, descending⟩ := pairwise_cons.mp descending
    have older := newer other
    have entered := ih descending
    rw [recorded]
    split_ifs <;> grind

theorem Descending.recorded (descending : Descending sampleTime samples) :
    Descending sampleTime (recorded sampleTime sample samples) := by
  induction samples with
  | nil => exact pairwise_singleton _ _
  | cons first rest ih =>
    obtain ⟨newer, older⟩ := pairwise_cons.mp descending
    have entered := mem_recorded older sample
    unfold Opportunity.recorded
    split_ifs
    · exact pairwise_cons.mpr ⟨by grind, descending⟩
    · exact pairwise_cons.mpr ⟨by grind, older⟩
    · exact pairwise_cons.mpr ⟨by grind, ih older⟩

theorem lastInserted_append {inserted : List T} {other : T} :
    LastInserted sampleTime (inserted ++ [sample]) other ↔
      other = sample ∨ LastInserted sampleTime inserted other ∧
        sampleTime other ≠ sampleTime sample := by
  unfold LastInserted
  rw [reverse_append, reverse_singleton, singleton_append, find?_cons]
  grind

/-- Those among the first `N` samples have fewer than `N` newer ones. -/
theorem mem_take_iff (descending : Descending sampleTime samples) (N : Nat) (sample : T) :
    sample ∈ samples.take N ↔
      sample ∈ samples ∧ samples.countP (sampleTime sample < sampleTime ·) < N := by
  induction samples generalizing N with
  | nil => simp
  | cons first rest ih =>
    obtain ⟨newer, descending⟩ := pairwise_cons.mp descending
    rcases N with _ | N
    · simp
    · rw [take_succ_cons, mem_cons, mem_cons, ih descending]
      by_cases isFirst : sample = first
      · have none : rest.countP (sampleTime first < sampleTime ·) = 0 :=
          countP_eq_zero.mpr (by grind)
        simp [isFirst, none]
      · simp only [isFirst, false_or]
        grind

/-! ## The array -/

theorem slots_cons : slots (N + 1) (first :: rest) = some first :: slots N rest := by
  simp [slots, range_succ_eq_map]

theorem slots_eq : slots N samples = (samples.take N).map some ++
    replicate (N - (samples.take N).length) none := by
  refine ext_getElem? fun j => ?_
  grind [slots]

/-- The loop runs from the end, so each slot takes what its neighbour held before. -/
theorem getElem?_shiftFrom {index count : Nat} {slots : List (Option T)}
    (fits : index + count < slots.length) (j : Nat) :
    (shiftFrom index count slots)[j]? =
      if index < j ∧ j ≤ index + count then slots[j - 1]? else slots[j]? := by
  induction count generalizing slots with
  | zero => grind [shiftFrom]
  | succ count ih =>
    have unrolled : shiftFrom index (count + 1) slots = shiftFrom index count
        (slots.set (index + 1 + count) (slots.getD (index + count) none)) := by
      simp [shiftFrom, range'_1_concat]
    rw [unrolled, ih (by rw [length_set]; omega)]
    grind

/-- A sample that is newer stays in the first slot. -/
theorem insertInto_behind {slots : List (Option T)} (newer : sampleTime sample < sampleTime first) :
    insertInto sampleTime (some first :: slots) sample =
      some first :: insertInto sampleTime slots sample := by
  have other : ¬ sampleTime first = sampleTime sample := by omega
  have young : ¬ sampleTime first < sampleTime sample := by omega
  unfold insertInto
  rcases found : slots.findIdx? (·.any (sampleTime · = sampleTime sample)) with _ | index
  · rcases place : slots.findIdx? (·.all (sampleTime · < sampleTime sample)) with _ | index
    · simp [findIdx?_cons, found, place, other, young]
    · have inside : index < slots.length := (findIdx?_eq_some_iff_getElem.mp place).1
      simp only [findIdx?_cons, found, place, other, young, Option.any_some, Option.all_some,
        decide_false, Bool.false_eq_true, if_false, Option.map_none, Option.map_some,
        Option.getD_some, length_cons, Nat.add_right_cancel_iff, Nat.ne_of_lt inside]
      refine ext_getElem? fun j => ?_
      grind [getElem?_shiftFrom, length_shiftFrom]
  · simp [findIdx?_cons, found, other]

/-- A sample that is newer than all enters the first slot. -/
theorem insertInto_front (older : ∀ held ∈ samples, sampleTime held < sampleTime sample) :
    insertInto sampleTime (slots (N + 1) samples) sample = slots (N + 1) (sample :: samples) := by
  have found : (slots (N + 1) samples).findIdx? (·.any (sampleTime · = sampleTime sample)) = none := by
    rw [findIdx?_eq_none_iff]
    simp only [slots, mem_map]
    rintro _ ⟨index, -, rfl⟩
    rcases held : samples[index]? with _ | other
    · rfl
    · have := older other (mem_of_getElem? held)
      simpa using Nat.ne_of_lt this
  have place : (slots (N + 1) samples).findIdx? (·.all (sampleTime · < sampleTime sample)) = some 0 := by
    rcases samples with _ | ⟨first, rest⟩
    · simp [slots, range_succ_eq_map, findIdx?_cons]
    · simp [slots_cons, findIdx?_cons, older]
  simp only [insertInto, found, place]
  refine ext_getElem? fun j => ?_
  grind [getElem?_shiftFrom, length_shiftFrom, slots]

theorem insertInto_slots (descending : Descending sampleTime samples) :
    insertInto sampleTime (slots N samples) sample =
      slots N (recorded sampleTime sample samples) := by
  induction N generalizing samples with
  | zero => rfl
  | succ N ih =>
    rcases samples with _ | ⟨first, rest⟩
    · exact insertInto_front (forall_mem_nil _)
    · obtain ⟨newer, older⟩ := pairwise_cons.mp descending
      rw [recorded]
      split_ifs with later same
      · refine insertInto_front (forall_mem_cons.mpr ⟨later, fun held mem => ?_⟩)
        exact Nat.lt_trans (newer held mem) later
      · simp [slots_cons, insertInto, findIdx?_cons, same]
      · rw [slots_cons, slots_cons, insertInto_behind (by omega), ih older]

/-- All samples, in a whole run. -/
theorem recorded_all (sampleTime : T → Nat) (N : Nat) (inserted : List T) :
    ∃ all, Descending sampleTime all ∧
      (∀ sample, sample ∈ all ↔ LastInserted sampleTime inserted sample) ∧
      (∀ time, time ∈ all.map sampleTime ↔ time ∈ inserted.map sampleTime) ∧
      (inserted.foldl (.insert sampleTime) (.default : TemporalHistory T N)).samples =
        slots N all := by
  induction inserted using reverseRecOn with
  | nil => exact ⟨[], by simp [Descending, LastInserted, TemporalHistory.default, slots]⟩
  | append_singleton inserted sample ih =>
    obtain ⟨all, descending, last, times, held⟩ := ih
    refine ⟨recorded sampleTime sample all, descending.recorded, fun other => ?_, fun time => ?_, ?_⟩
    · rw [mem_recorded descending, last, lastInserted_append]
    · have known := times time
      simp only [mem_map, mem_recorded descending, map_append, mem_append] at known ⊢
      grind
    · rw [foldl_append]
      exact (congrArg (insertInto sampleTime · sample) held).trans (insertInto_slots descending)

theorem find?_newest (descending : Descending sampleTime samples) {timestamp : Nat} :
    samples.find? (sampleTime · ≤ timestamp) = some sample ↔
      sample ∈ samples ∧ sampleTime sample ≤ timestamp ∧
        ∀ other ∈ samples, sampleTime other ≤ timestamp → sampleTime other ≤ sampleTime sample := by
  induction samples with
  | nil => simp
  | cons first rest ih =>
    obtain ⟨newer, older⟩ := pairwise_cons.mp descending
    have entered := ih older
    rw [find?_cons]
    grind

/-- After any inserts the array holds, from the newest to the oldest and before its empty slots, the
samples of the `N` latest times, each as it was inserted last; and a lookup finds the newest of them
that is not later than the time asked for. -/
theorem cost_history_keeps_newest (sampleTime : T → Nat) (N : Nat) (inserted : List T) :
    let history : TemporalHistory T N := inserted.foldl (.insert sampleTime) .default
    (∃ kept, Descending sampleTime kept ∧
      history.samples = kept.map some ++ replicate (N - kept.length) none) ∧
    (∀ sample, some sample ∈ history.samples ↔
      LastInserted sampleTime inserted sample ∧
        (inserted.map sampleTime).dedup.countP (sampleTime sample < ·) < N) ∧
    ∀ timestamp,
      (history.atOrBefore timestamp sampleTime = none ↔
        ∀ sample, some sample ∈ history.samples → timestamp < sampleTime sample) ∧
      ∀ sample, history.atOrBefore timestamp sampleTime = some sample ↔
        some sample ∈ history.samples ∧ sampleTime sample ≤ timestamp ∧
          ∀ other, some other ∈ history.samples → sampleTime other ≤ timestamp →
            sampleTime other ≤ sampleTime sample := by
  intro history
  obtain ⟨all, descending, last, times, held⟩ := recorded_all sampleTime N inserted
  have nodup : (all.map sampleTime).Nodup := pairwise_map.mpr (descending.imp Nat.ne_of_gt)
  have perm : (all.map sampleTime).Perm (inserted.map sampleTime).dedup :=
    (perm_ext_iff_of_nodup nodup (nodup_dedup _)).mpr (by simpa using times)
  have newest := mem_take_iff descending N
  have kept := List.Pairwise.sublist (take_sublist N all) descending
  rw [slots_eq] at held
  generalize all.take N = retained at *
  have mem (sample : T) : some sample ∈ history.samples ↔ sample ∈ retained := by
    simp [history, held]
  have listed : history.samples.filterMap id = retained := by
    simp [history, held]
  simp only [TemporalHistory.atOrBefore, listed, mem]
  refine ⟨⟨retained, kept, held⟩, fun sample => ?_, fun timestamp => ⟨?_, fun sample => ?_⟩⟩
  · rw [newest, last, ← perm.countP_eq, countP_map]
    rfl
  · simp
  · exact find?_newest kept

end PolyBot.Opportunity
