import PolyBot.Lib.Proc

/-!
# Refinement of results

`OkLe x y`: where `x` succeeds, `y` succeeds with the same value.  A computation that looks values
up in a smaller store refines the same computation on a larger one in this sense, construct by
construct: `OkLe.bind`, `OkLe.lookup`, `OkLe.guard` and `OkLe.ite` are the rules.
-/

/-- Where `x` succeeds, `y` succeeds with the same value. -/
def OkLe {ε α : Type} (x y : Except ε α) : Prop :=
  ∀ a, x = .ok a → y = .ok a

namespace OkLe

variable {ε α β : Type}

theorem refl (x : Except ε α) : OkLe x x := fun _ ok => ok

variable {x y : Except ε α}

theorem eq_or_error (le : OkLe x y) : x = y ∨ ∃ e, x = .error e := by
  cases result : x with
  | ok a => exact Or.inl (le a result).symm
  | error e => exact Or.inr ⟨e, rfl⟩

theorem bind {f g : α → Except ε β} (first : OkLe x y) (rest : ∀ a, x = .ok a → OkLe (f a) (g a)) :
    OkLe (x >>= f) (y >>= g) := by
  intro b ok
  obtain ⟨a, okX, okF⟩ := bind_eq_ok.mp ok
  exact bind_eq_ok.mpr ⟨a, first a okX, rest a okX b okF⟩

variable {e : ε} {c : Prop}

theorem lookup {o o' : Option α} (held : ∀ a, o = some a → o' = some a) :
    OkLe (orError o e) (orError o' e) := by
  intro a ok
  exact orError_eq_ok.mpr (held a (orError_eq_ok.mp ok))

theorem guard {c' : Prop} [Decidable c] [Decidable c'] (weaker : c → c') :
    OkLe (require c e) (require c' e) := by
  intro u ok
  exact require_eq_ok.mpr (weaker (require_eq_ok.mp ok))

theorem ite [Decidable c] {x' y' : Except ε α} (onTrue : c → OkLe x x') (onFalse : ¬c → OkLe y y') :
    OkLe (if c then x else y) (if c then x' else y') := by
  by_cases h : c
  · rw [if_pos h, if_pos h]
    exact onTrue h
  · rw [if_neg h, if_neg h]
    exact onFalse h

/-- Two folds whose steps refine each other. -/
theorem foldlM {f g : β → α → Except ε β} {xs : List α}
    (step : ∀ b, ∀ x ∈ xs, OkLe (f b x) (g b x)) (b : β) :
    OkLe (xs.foldlM f b) (xs.foldlM g b) := by
  induction xs generalizing b with
  | nil => exact refl _
  | cons x xs ih =>
    rw [List.foldlM_cons, List.foldlM_cons]
    refine (step b x (List.mem_cons_self ..)).bind fun b' _ => ?_
    exact ih (fun b x mem => step b x (List.mem_cons_of_mem _ mem)) b'

end OkLe
