import PolyBot.Lib.Proc
import Mathlib.Tactic.Linarith

/-!
# Loops that can fail or break off

`while condition { body }` as a function of the loop's variables: the body fails, goes on with new
values, or breaks off with them.  The recursion is on a bound of the number of rounds, and running
out of it is an error of its own, which `failsWith_whileLoop` shows not to occur where every round
makes a measure smaller.

* `FailsWith`: what every failure of a computation is, with one rule for each construct.
* `EndsWithin`: a bound of the rounds that a loop makes, from the same measure.
* `whileLoop_cases`: how a loop that returns has gone.
* `whileLoop_iff`: what a loop answers, from what each of its rounds decides.
-/

/-! ## Failures -/

section Failures

variable {ε α β : Type} {E : ε → Prop}

/-- Every failure of the computation is an `E`. -/
def FailsWith (E : ε → Prop) (x : Except ε α) : Prop :=
  ∀ e, x = .error e → E e

theorem failsWith_ok (a : α) : FailsWith E (.ok a) :=
  fun _ failed => nomatch failed

theorem failsWith_pure (a : α) : FailsWith E (pure a) :=
  failsWith_ok a

variable {x : Except ε α} {e : ε}

theorem FailsWith.bind {f : α → Except ε β} (first : FailsWith E x)
    (rest : ∀ a, x = .ok a → FailsWith E (f a)) : FailsWith E (x >>= f) := by
  intro e failed
  rcases ran : x with e' | a
  · rw [ran] at failed
    cases failed
    exact first e ran
  · rw [ran] at failed
    exact rest a ran e failed

theorem failsWith_orError {o : Option α} (holds : E e) : FailsWith E (orError o e) := by
  intro e' failed
  cases o with
  | none =>
    cases failed
    exact holds
  | some a => cases failed

theorem failsWith_require {c : Prop} [Decidable c] (holds : E e) : FailsWith E (require c e) := by
  intro e' failed
  unfold require at failed
  split at failed
  · cases failed
  · cases failed
    exact holds

end Failures

/-! ## Rounds -/

section WhileLoop

variable {σ ε : Type}

/-- The rounds of a loop, at most as many as the last argument but one. -/
def whileLoop (diverged : ε) (condition : σ → Bool) (body : σ → Except ε (ForInStep σ)) :
    Nat → σ → Except ε σ
  | 0, _ => .error diverged
  | rounds + 1, state =>
    if condition state then
      match body state with
      | .error e => .error e
      | .ok (.done next) => .ok next
      | .ok (.yield next) => whileLoop diverged condition body rounds next
    else .ok state

variable {diverged : ε} {condition : σ → Bool} {body : σ → Except ε (ForInStep σ)} {rounds : Nat}
  {state next : σ}

theorem whileLoop_stop (stop : condition state = false) :
    whileLoop diverged condition body (rounds + 1) state = .ok state := by
  rw [whileLoop, stop]
  rfl

theorem whileLoop_done (go : condition state = true) (ran : body state = .ok (.done next)) :
    whileLoop diverged condition body (rounds + 1) state = .ok next := by
  rw [whileLoop, go, ran]
  rfl

theorem whileLoop_yield (go : condition state = true) (ran : body state = .ok (.yield next)) :
    whileLoop diverged condition body (rounds + 1) state =
      whileLoop diverged condition body rounds next := by
  rw [whileLoop, go, ran]
  rfl

theorem whileLoop_fail {e : ε} (go : condition state = true) (ran : body state = .error e) :
    whileLoop diverged condition body (rounds + 1) state = .error e := by
  rw [whileLoop, go, ran]
  rfl

/-- How a loop that returns has gone: it stopped at once, broke off, or went on. -/
theorem whileLoop_cases {result : σ}
    (returned : whileLoop diverged condition body (rounds + 1) state = .ok result) :
    (condition state = false ∧ result = state) ∨
      (condition state = true ∧ body state = .ok (.done result)) ∨
      ∃ next, condition state = true ∧ body state = .ok (.yield next) ∧
        whileLoop diverged condition body rounds next = .ok result := by
  rcases go : condition state with _ | _
  · rw [whileLoop_stop go] at returned
    exact Or.inl ⟨rfl, (Except.ok.inj returned).symm⟩
  · rcases ran : body state with e | (result' | next)
    · rw [whileLoop_fail go ran] at returned
      cases returned
    · rw [whileLoop_done go ran] at returned
      cases returned
      exact Or.inr (Or.inl ⟨rfl, rfl⟩)
    · rw [whileLoop_yield go ran] at returned
      exact Or.inr (Or.inr ⟨next, rfl, rfl, returned⟩)

/-- The rounds that a loop makes, of those it is allowed. -/
def iterations (condition : σ → Bool) (body : σ → Except ε (ForInStep σ)) : Nat → σ → Nat
  | 0, _ => 0
  | allowed + 1, state =>
    if condition state then
      match body state with
      | .ok (.yield next) => iterations condition body allowed next + 1
      | _ => 1
    else 0

/-- The loop never makes more than `bound` rounds, and if it is allowed more it does not run out. -/
def EndsWithin (diverged : ε) (condition : σ → Bool) (body : σ → Except ε (ForInStep σ))
    (state : σ) (bound : Nat) : Prop :=
  ∀ rounds, iterations condition body rounds state ≤ bound ∧
    (bound < rounds → whileLoop diverged condition body rounds state ≠ .error diverged)

theorem EndsWithin.mono {bound more : Nat} (ends : EndsWithin diverged condition body state bound)
    (le : bound ≤ more) : EndsWithin diverged condition body state more :=
  fun rounds => ⟨(ends rounds).1.trans le, fun enough => (ends rounds).2 (lt_of_le_of_lt le enough)⟩

/-- A round that leaves the loop where it was is repeated without end. -/
theorem not_endsWithin (bound : Nat) (go : condition state = true)
    (first : body state = .ok (.yield next)) (again : condition next = true)
    (stuck : body next = .ok (.yield next)) :
    ¬ EndsWithin diverged condition body state bound := by
  have repeats : ∀ rounds, whileLoop diverged condition body rounds next = .error diverged := by
    intro rounds
    induction rounds with
    | zero => rfl
    | succ rounds ih => rw [whileLoop_yield again stuck, ih]
  intro ends
  refine (ends (bound + 2)).2 (by omega) ?_
  rw [whileLoop_yield go first, repeats]

section Measure

variable {I : σ → Prop} {E : ε → Prop} (measure : σ → Nat)
  (fails : ∀ state, I state → condition state = true → FailsWith E (body state))
  (goes : ∀ state next, I state → condition state = true → body state = .ok (.yield next) →
    I next ∧ measure next < measure state) (start : I state)

include fails goes start

/-- A loop whose rounds keep an invariant and make a measure smaller fails only as its body does. -/
theorem failsWith_whileLoop (enough : measure state < rounds) :
    FailsWith E (whileLoop diverged condition body rounds state) := by
  intro e failed
  induction rounds generalizing state with
  | zero => exact absurd enough (Nat.not_lt_zero _)
  | succ rounds ih =>
    rcases go : condition state with _ | _
    · rw [whileLoop_stop go] at failed
      cases failed
    · rcases ran : body state with e' | (result | next)
      · rw [whileLoop_fail go ran] at failed
        cases failed
        exact fails state start go e ran
      · rw [whileLoop_done go ran] at failed
        cases failed
      · rw [whileLoop_yield go ran] at failed
        obtain ⟨kept, smaller⟩ := goes state next start go ran
        exact ih kept (by omega) failed

/-- The measure bounds the rounds where it is positive as long as the loop goes on. -/
theorem endsWithin (ahead : ∀ state, condition state = true → 0 < measure state)
    (other : ¬ E diverged) : EndsWithin diverged condition body state (measure state) := by
  intro rounds
  refine ⟨?_, fun enough failed =>
    other (failsWith_whileLoop measure fails goes start enough _ failed)⟩
  induction rounds generalizing state with
  | zero => exact Nat.zero_le _
  | succ rounds ih =>
    unfold iterations
    split
    · rename_i go
      split
      · rename_i next ran
        obtain ⟨kept, smaller⟩ := goes state next start go ran
        have rest := ih kept
        omega
      · exact ahead state go
    · exact Nat.zero_le _

end Measure

/-- A round decides `R` of the state it starts in: by the answer of the state it ends in, or by `R` of
the state it leaves, which is nearer to the end. -/
def RoundDecides (condition : σ → Bool) (body : σ → Except ε (ForInStep σ)) (I A R : σ → Prop)
    (measure : σ → Nat) (state : σ) : Prop :=
  if condition state then
    match body state with
    | .error _ => ¬ R state
    | .ok (.done last) => A last ↔ R state
    | .ok (.yield next) => I next ∧ measure next < measure state ∧ (R next ↔ R state)
  else A state ↔ R state

/-- A loop whose rounds decide `R` returns with the answer exactly where `R` holds. -/
theorem whileLoop_iff {I A R : σ → Prop} {measure : σ → Nat}
    (decides : ∀ state, I state → RoundDecides condition body I A R measure state) (start : I state)
    (enough : measure state < rounds) :
    (∃ last, whileLoop diverged condition body rounds state = .ok last ∧ A last) ↔ R state := by
  induction rounds generalizing state with
  | zero => exact absurd enough (Nat.not_lt_zero _)
  | succ rounds ih =>
    have decided := decides state start
    unfold RoundDecides at decided
    rcases go : condition state with _ | _
    · rw [whileLoop_stop go]
      simpa [go] using decided
    · rw [if_pos go] at decided
      rcases ran : body state with e | (last | next) <;> rw [ran] at decided
      · rw [whileLoop_fail go ran]
        simpa using decided
      · rw [whileLoop_done go ran]
        simpa using decided
      · rw [whileLoop_yield go ran, ih decided.1 (by omega), decided.2.2]

end WhileLoop
