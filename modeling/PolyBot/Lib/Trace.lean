import Mathlib.Tactic.Linarith

/-!
# Traces

A machine takes one input after another; each time it gives an answer and moves to a new state.
`Trace.final` is the state after some inputs and `Trace.outputs` the answers on the way.

* `Trace.history_invariant`: what one step keeps between the answers so far and the state holds of
  every run.
* `Trace.outputs_eq_append_cons`: an answer of a run, traced back to the step that gave it.
* `Trace.countP_outputs_le_rank`: a rank that every counted answer lowers bounds their number.
-/

namespace Trace

variable {σ ι ο : Type} (step : σ → ι → ο × σ)

def final (s : σ) (inputs : List ι) : σ :=
  inputs.foldl (fun s input => (step s input).2) s

def outputs (s : σ) : List ι → List ο
  | [] => []
  | input :: inputs => (step s input).1 :: outputs (step s input).2 inputs

@[simp]
theorem final_nil (s : σ) : final step s [] = s :=
  rfl

@[simp]
theorem final_cons (s : σ) (input : ι) (inputs : List ι) :
    final step s (input :: inputs) = final step (step s input).2 inputs :=
  rfl

@[simp]
theorem outputs_nil (s : σ) : outputs step s [] = [] :=
  rfl

@[simp]
theorem outputs_cons (s : σ) (input : ι) (inputs : List ι) :
    outputs step s (input :: inputs) = (step s input).1 :: outputs step (step s input).2 inputs :=
  rfl

variable {step} {s : σ} {I : σ → Prop} {past : List ο} {inputs : List ι}

/-- What every step keeps holds after any inputs. -/
theorem final_invariant (keeps : ∀ s input, I s → I (step s input).2) (holds : I s)
    (inputs : List ι) : I (final step s inputs) := by
  induction inputs generalizing s with
  | nil => exact holds
  | cons input inputs ih => exact ih (keeps s input holds)

/-- The invariant of a run may speak of the answers given so far. -/
theorem history_invariant {I : List ο → σ → Prop}
    (keeps : ∀ past s input, I past s → I (past ++ [(step s input).1]) (step s input).2)
    (holds : I past s) (inputs : List ι) :
    I (past ++ outputs step s inputs) (final step s inputs) := by
  induction inputs generalizing past s with
  | nil => simpa using holds
  | cons input inputs ih =>
    have next := ih (keeps past s input holds)
    rwa [List.append_assoc] at next

/-- An answer of a run comes from the step at its place. -/
theorem outputs_eq_append_cons {rest : List ο} {answer : ο}
    (answered : outputs step s inputs = past ++ answer :: rest) :
    ∃ before input, before ++ [input] <+: inputs ∧ past = outputs step s before ∧
      answer = (step (final step s before) input).1 := by
  induction inputs generalizing s past with
  | nil => simp at answered
  | cons input inputs ih =>
    cases past with
    | nil =>
      have first : (step s input).1 = answer := by simpa using congrArg List.head? answered
      exact ⟨[], input, by simp, rfl, first.symm⟩
    | cons first past =>
      rw [outputs_cons, List.cons_append] at answered
      obtain ⟨rfl, later⟩ := List.cons.inj answered
      obtain ⟨before, input', ⟨after, split⟩, rfl, rfl⟩ := ih later
      exact ⟨input :: before, input', ⟨after, by simpa using split⟩, rfl, rfl⟩

/-- While no answer stops the count, each counted answer lowers the rank and no other one raises
it. -/
theorem countP_outputs_le_rank (rank : σ → Nat) {counts stops : ο → Bool}
    (moves : ∀ s input, I s → stops (step s input).1 = false →
      I (step s input).2 ∧
        rank (step s input).2 + (if counts (step s input).1 then 1 else 0) ≤ rank s) (holds : I s)
    (goesOn : ∀ answer ∈ outputs step s inputs, stops answer = false) :
    (outputs step s inputs).countP counts ≤ rank s := by
  induction inputs generalizing s with
  | nil => simp
  | cons input inputs ih =>
    rw [outputs_cons, List.forall_mem_cons] at goesOn
    obtain ⟨kept, lower⟩ := moves s input holds goesOn.1
    have later := ih kept goesOn.2
    rw [outputs_cons, List.countP_cons]
    omega

end Trace
