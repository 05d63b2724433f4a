import Mathlib.Algebra.GroupWithZero.Nat
import PolyBot.Lib.Proc

/-!
# A bounded cache of a fallible function

A fixed number of entries, replaced in turn.  A lookup that misses loads the value and stores it; a
load that fails stores nothing.

* `RingCache.Agrees`: every entry is what the function gives for its key.
* `RingCache.fetch_of_agrees`: then a cached lookup is the function, hit or miss, and the entries
  stay right.
* `Proc.SameExit`: a procedure that keeps an invariant exits as another one does, whatever state that
  one starts from; with one rule for each construct.
-/

/-- Entries for at most `size` keys; `nextReplace` is where the next one goes. -/
structure RingCache (κ ν : Type) (size : Nat) where
  entries : Vector (Option (κ × ν)) size
  nextReplace : Fin size

namespace RingCache

variable {κ ν ε : Type} {size : Nat}

/-- The cache without entries. -/
def empty [NeZero size] : RingCache κ ν size where
  entries := Vector.replicate size none
  nextReplace := 0

/-- The value stored for a key. -/
def find? [DecidableEq κ] (cache : RingCache κ ν size) (key : κ) : Option ν :=
  ((cache.entries.toList.filterMap id).find? fun entry => entry.1 = key).map Prod.snd

/-- The cache with one more entry in place of the oldest. -/
def store [NeZero size] (cache : RingCache κ ν size) (key : κ) (value : ν) : RingCache κ ν size where
  entries := cache.entries.set cache.nextReplace (some (key, value))
  nextReplace := cache.nextReplace + 1

/-- The value of a key, from the cache or loaded into it; the flag says whether it was a hit. -/
def fetch [DecidableEq κ] [NeZero size] (cache : RingCache κ ν size) (key : κ)
    (load : κ → Except ε ν) : Except ε (ν × Bool) × RingCache κ ν size :=
  match cache.find? key with
  | some value => (.ok (value, true), cache)
  | none => match load key with
    | .ok value => (.ok (value, false), cache.store key value)
    | .error e => (.error e, cache)

/-- Every entry is what the function gives for its key. -/
def Agrees (load : κ → Except ε ν) (cache : RingCache κ ν size) : Prop :=
  ∀ key value, some (key, value) ∈ cache.entries → load key = .ok value

theorem agrees_empty [NeZero size] (load : κ → Except ε ν) :
    Agrees load (empty : RingCache κ ν size) := by
  intro key value mem
  cases Vector.eq_of_mem_replicate mem

variable {cache : RingCache κ ν size} {load : κ → Except ε ν}

/-- A cache without entries agrees with every function, so one that agrees with a function that
always fails is agreeable to all. -/
theorem Agrees.of_load_failing {other : κ → Except ε ν} (agrees : Agrees load cache)
    (failing : ∀ key value, load key ≠ .ok value) : Agrees other cache :=
  fun key value mem => absurd (agrees key value mem) (failing key value)

variable {key : κ} {value : ν}

theorem Agrees.store [NeZero size] (agrees : Agrees load cache) (loaded : load key = .ok value) :
    Agrees load (cache.store key value) := by
  intro other value' mem
  change _ ∈ cache.entries.set cache.nextReplace (some (key, value)) at mem
  rcases Vector.mem_or_eq_of_mem_set mem with old | new
  · exact agrees other value' old
  · cases new
    exact loaded

variable [DecidableEq κ]

theorem mem_of_find? (found : cache.find? key = some value) :
    some (key, value) ∈ cache.entries := by
  obtain ⟨⟨stored, value'⟩, first, same⟩ := Option.map_eq_some_iff.mp found
  have matched := List.find?_some first
  obtain ⟨entry, listed, held⟩ := List.mem_filterMap.mp (List.mem_of_find?_eq_some first)
  rw [decide_eq_true_eq] at matched
  cases matched
  cases same
  cases held
  exact Vector.mem_toList_iff.mp listed

/-- A lookup in a cache that agrees with the function gives what the function gives. -/
theorem fetch_of_agrees [NeZero size] (agrees : Agrees load cache) (key : κ) :
    (cache.fetch key load).1.map Prod.fst = load key ∧ Agrees load (cache.fetch key load).2 := by
  unfold fetch
  cases found : cache.find? key with
  | some value =>
    have loaded := agrees key value (mem_of_find? found)
    exact ⟨loaded.symm, agrees⟩
  | none =>
    cases loaded : load key with
    | ok value => exact ⟨rfl, agrees.store loaded⟩
    | error e => exact ⟨rfl, agrees⟩

end RingCache

/-! ## Procedures that exit alike -/

namespace Proc

variable {σ ε α β : Type} {Inv : σ → Prop}

/-- From every state with `Inv` the first procedure exits as the second does from any state, and
keeps `Inv`. -/
def SameExit (Inv : σ → Prop) (x y : Proc σ ε α) : Prop :=
  ∀ s t, Inv s → (x.exec s).1 = (y.exec t).1 ∧ Inv (x.exec s).2

theorem exec_bind (x : Proc σ ε β) (f : β → Proc σ ε α) (s : σ) :
    (x >>= f).exec s = match x.exec s with
      | (.ok b, s') => (f b).exec s'
      | (.error e, s') => (.error e, s') := by
  unfold exec
  rw [ExceptT.run_bind, StateT.run_bind]
  generalize x.run.run s = ran
  rcases ran with ⟨_ | _, _⟩ <;> rfl

theorem exec_zoom {τ : Type} (view : σ → τ) (put : τ → σ → σ) (x : Proc τ ε α) (s : σ) :
    (zoom view put x).exec s = ((x.exec (view s)).1, put (x.exec (view s)).2 s) :=
  rfl

theorem sameExit_pure (a : α) : SameExit Inv (pure a : Proc σ ε α) (pure a) :=
  fun _ _ holds => ⟨rfl, holds⟩

theorem sameExit_lift (r : Except ε α) : SameExit Inv (lift r : Proc σ ε α) (lift r) := by
  intro s t holds
  cases r with
  | ok | error => exact ⟨rfl, holds⟩

theorem SameExit.bind {x y : Proc σ ε β} {f g : β → Proc σ ε α} (first : SameExit Inv x y)
    (rest : ∀ b, SameExit Inv (f b) (g b)) : SameExit Inv (x >>= f) (y >>= g) := by
  intro s t holds
  obtain ⟨same, kept⟩ := first s t holds
  rw [exec_bind, exec_bind]
  generalize x.exec s = left at same kept ⊢
  generalize y.exec t = right at same ⊢
  obtain ⟨exit, s'⟩ := left
  obtain ⟨_, t'⟩ := right
  cases same
  cases exit with
  | ok b => exact rest b s' t' kept
  | error e => exact ⟨rfl, kept⟩

/-- Two loops whose rounds exit alike do so themselves. -/
theorem SameExit.foldlM {f g : β → α → Proc σ ε β} (step : ∀ b a, SameExit Inv (f b a) (g b a))
    (as : List α) (b : β) : SameExit Inv (as.foldlM f b) (as.foldlM g b) := by
  induction as generalizing b with
  | nil => exact sameExit_pure b
  | cons a as ih =>
    rw [List.foldlM_cons, List.foldlM_cons]
    exact (step b a).bind ih

end Proc
