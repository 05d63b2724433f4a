import Mathlib.Order.Basic

/-!
# Procedures that fail and keep their state

A procedure reads and writes a state and either returns or fails.  A failure does not roll the
state back: what was written before it stays written, as with an early return out of a method that
has already changed its receiver.

* `Proc σ ε`: the monad, an exception over a state.
* `Proc.ensure`, `Proc.orFail`, `Proc.zoom`: a guard, an optional value with an error, and a
  procedure on a part of the state.
* `require`: a guard of a computation without state, with `require_eq_ok` and `bind_eq_ok` to read a
  chain of guards back.
* `OkUnless`: a computation returns something good unless it fails in one of the ways allowed.
* `Proc.wp`: the weakest precondition of a procedure for a postcondition of its two exits, with one
  rewriting rule for each construct, and `Proc.wp_mono`.
* `Proc.Transacts`: a procedure that does everything a function says, or nothing.
-/

/-- Fail with `e` unless `c` holds. -/
def require {ε : Type} (c : Prop) [Decidable c] (e : ε) : Except ε Unit :=
  if c then .ok () else .error e

variable {ε α β : Type}

@[simp]
theorem require_eq_ok {c : Prop} [Decidable c] {e : ε} {u : Unit} : require c e = .ok u ↔ c := by
  unfold require
  split <;> simp_all

theorem ok_bind (a : α) (f : α → Except ε β) : (Except.ok a >>= f) = f a :=
  rfl

theorem require_of {c : Prop} [Decidable c] {e : ε} (holds : c) : require c e = .ok () :=
  if_pos holds

/-- The value of an option, or the failure `e`. -/
def orError {ε α : Type} (o : Option α) (e : ε) : Except ε α :=
  match o with
  | some a => .ok a
  | none => .error e

@[simp]
theorem orError_eq_ok {o : Option α} {e : ε} {a : α} : orError o e = .ok a ↔ o = some a := by
  cases o <;> simp [orError]

@[simp]
theorem bind_eq_ok {x : Except ε α} {f : α → Except ε β} {b : β} :
    x >>= f = .ok b ↔ ∃ a, x = .ok a ∧ f a = .ok b := by
  cases x <;> simp [bind, Except.bind]

/-- Renaming a failure does not change when there is one. -/
theorem mapError_eq_ok {δ : Type} {x : Except ε α} {f : ε → δ} {a : α} :
    x.mapError f = .ok a ↔ x = .ok a := by
  cases x with
  | error e => exact ⟨(nomatch ·), (nomatch ·)⟩
  | ok b => exact ⟨fun same => congrArg _ (Except.ok.inj same), fun same => congrArg _ (Except.ok.inj same)⟩

@[simp]
theorem map_eq_ok {x : Except ε α} {f : α → β} {b : β} :
    f <$> x = .ok b ↔ ∃ a, x = .ok a ∧ f a = b := by
  cases x <;> simp [Functor.map, Except.map]

@[simp]
theorem pure_eq_ok {a b : α} : (pure a : Except ε α) = .ok b ↔ a = b := by
  simp [pure, Except.pure]

theorem exists_eq_ok {x : Except ε α} (isOk : x.isOk = true) : ∃ a, x = .ok a := by
  cases x with
  | ok a => exact ⟨a, rfl⟩
  | error e => cases isOk

/-- A check of every element of a list. -/
theorem forM_eq_ok {f : α → Except ε Unit} {xs : List α} {u : Unit} :
    xs.forM f = .ok u ↔ ∀ x ∈ xs, f x = .ok () := by
  induction xs with
  | nil => simp [List.forM, pure, Except.pure]
  | cons x xs ih =>
    change (f x >>= fun _ => xs.forM f) = .ok u ↔ _
    rw [bind_eq_ok, List.forall_mem_cons, ← ih]
    constructor
    · rintro ⟨⟨⟩, first, rest⟩
      exact ⟨first, rest⟩
    · rintro ⟨first, rest⟩
      exact ⟨(), first, rest⟩

/-- A property that every successful step of a fold preserves holds after the whole fold. -/
theorem foldlM_invariant {P : β → Prop} {f : β → α → Except ε β} {xs : List α}
    (step : ∀ b, ∀ x ∈ xs, ∀ b', P b → f b x = .ok b' → P b') {b b' : β} (holds : P b)
    (folded : xs.foldlM f b = .ok b') : P b' := by
  induction xs generalizing b with
  | nil =>
    cases folded
    exact holds
  | cons x xs ih =>
    rw [List.foldlM_cons, bind_eq_ok] at folded
    obtain ⟨next, stepped, folded⟩ := folded
    have first := step b x (List.mem_cons_self ..) next holds stepped
    exact ih (fun c y mem => step c y (List.mem_cons_of_mem _ mem)) first folded

/-- The computation returns something `good`, or fails as `allowed`. -/
def OkUnless {ε α : Type} (allowed : ε → Prop) (good : α → Prop) : Except ε α → Prop
  | .ok value => good value
  | .error failure => allowed failure

section OkUnless

variable {ε α β : Type} {allowed : ε → Prop} {good : α → Prop}

theorem okUnless_bind {x : Except ε β} {f : β → Except ε α} :
    OkUnless allowed good (x >>= f) ↔ OkUnless allowed (fun b => OkUnless allowed good (f b)) x := by
  cases x <;> rfl

theorem okUnless_pure {a : α} : OkUnless allowed good (pure a : Except ε α) ↔ good a :=
  Iff.rfl

variable {e : ε}

theorem okUnless_require {c : Prop} [Decidable c] {next : Unit → Prop} (holds : c) (rest : next ()) :
    OkUnless allowed next (require c e) := by
  rw [require_of holds]
  exact rest

theorem okUnless_orError_iff {o : Option α} :
    OkUnless allowed good (orError o e) ↔ (o = none → allowed e) ∧ ∀ a, o = some a → good a := by
  cases o <;> simp [OkUnless, orError]

theorem okUnless_orError {o : Option α} (failed : allowed e) (present : ∀ a, o = some a → good a) :
    OkUnless allowed good (orError o e) :=
  okUnless_orError_iff.mpr ⟨fun _ => failed, present⟩

theorem okUnless_mapError {δ : Type} {x : Except δ α} {f : δ → ε} (failed : ∀ d, allowed (f d))
    (returned : ∀ a, x = .ok a → good a) : OkUnless allowed good (x.mapError f) := by
  cases x with
  | ok a => exact returned a rfl
  | error d => exact failed d

theorem OkUnless.mono {good' : α → Prop} {x : Except ε α} (holds : OkUnless allowed good x)
    (weaker : ∀ a, good a → good' a) : OkUnless allowed good' x := by
  cases x with
  | ok a => exact weaker a holds
  | error e => exact holds

end OkUnless

/-- A procedure on the state `σ` that fails with an `ε`. -/
abbrev Proc (σ ε : Type) := ExceptT ε (StateM σ)

namespace Proc

variable {σ τ ε α β : Type}

/-- The exit of a procedure and the state it leaves. -/
def exec (x : Proc σ ε α) (s : σ) : Except ε α × σ :=
  x.run.run s

/-- The state a procedure leaves, whichever exit it takes. -/
def final (x : Proc σ ε α) (s : σ) : σ :=
  (x.exec s).2

/-- Fail with `e` unless `c` holds. -/
def ensure (c : Prop) [Decidable c] (e : ε) : Proc σ ε Unit :=
  if c then pure () else throw e

/-- The value of an option, or the failure `e`. -/
def orFail (o : Option α) (e : ε) : Proc σ ε α :=
  match o with
  | some a => pure a
  | none => throw e

/-- A computation without state, run as a procedure. -/
def lift (r : Except ε α) : Proc σ ε α :=
  match r with
  | .ok a => pure a
  | .error e => throw e

/-- A procedure on a part `τ` of the state. -/
def zoom (view : σ → τ) (put : τ → σ → σ) (x : Proc τ ε α) : Proc σ ε α :=
  ExceptT.mk fun s =>
    let r := x.exec (view s)
    (r.1, put r.2 s)

/-- What must hold before `x` so that `Q` holds where it returns and `E` where it fails. -/
def wp (x : Proc σ ε α) (Q : α → σ → Prop) (E : ε → σ → Prop) (s : σ) : Prop :=
  match x.exec s with
  | (.ok a, s') => Q a s'
  | (.error e, s') => E e s'

section Rules

variable {Q : α → σ → Prop} {E : ε → σ → Prop} {s : σ}

@[simp]
theorem wp_pure (a : α) : wp (pure a : Proc σ ε α) Q E s ↔ Q a s := Iff.rfl

@[simp]
theorem wp_throw (e : ε) : wp (throw e : Proc σ ε α) Q E s ↔ E e s := Iff.rfl

@[simp]
theorem wp_bind (x : Proc σ ε β) (f : β → Proc σ ε α) :
    wp (x >>= f) Q E s ↔ wp x (fun b s' => wp (f b) Q E s') E s := by
  unfold wp exec
  rw [ExceptT.run_bind, StateT.run_bind]
  change (match (match x.run.run s with
      | (r, s') => StateT.run (match r with
        | .ok b => (f b).run
        | .error e => pure (Except.error e)) s') with
    | (.ok a, s') => Q a s'
    | (.error e, s') => E e s') ↔ _
  rcases x.run.run s with ⟨_ | _, _⟩ <;> rfl

@[simp]
theorem wp_map (x : Proc σ ε β) (f : β → α) :
    wp (f <$> x) Q E s ↔ wp x (fun b s' => Q (f b) s') E s := by
  rw [← bind_pure_comp, wp_bind]
  rfl

@[simp]
theorem wp_get {Q : σ → σ → Prop} : wp (get : Proc σ ε σ) Q E s ↔ Q s s := Iff.rfl

@[simp]
theorem wp_set {Q : PUnit → σ → Prop} (t : σ) :
    wp (set t : Proc σ ε PUnit) Q E s ↔ Q ⟨⟩ t := Iff.rfl

@[simp]
theorem wp_modify {Q : PUnit → σ → Prop} (f : σ → σ) :
    wp (modify f : Proc σ ε PUnit) Q E s ↔ Q ⟨⟩ (f s) := Iff.rfl

@[simp]
theorem wp_ite {c : Prop} [Decidable c] (x y : Proc σ ε α) :
    wp (if c then x else y) Q E s ↔ (c → wp x Q E s) ∧ (¬c → wp y Q E s) := by
  by_cases h : c <;> simp [h]

@[simp]
theorem wp_ensure {Q : Unit → σ → Prop} {c : Prop} [Decidable c] (e : ε) :
    wp (ensure c e : Proc σ ε Unit) Q E s ↔ (c → Q () s) ∧ (¬c → E e s) := by
  simp [ensure]

@[simp]
theorem wp_orFail (o : Option α) (e : ε) :
    wp (orFail o e : Proc σ ε α) Q E s ↔ (∀ a, o = some a → Q a s) ∧ (o = none → E e s) := by
  cases o <;> simp [orFail]

@[simp]
theorem wp_lift (r : Except ε α) :
    wp (lift r : Proc σ ε α) Q E s ↔
      (∀ a, r = .ok a → Q a s) ∧ (∀ e, r = .error e → E e s) := by
  cases r <;> simp [lift]

@[simp]
theorem wp_zoom (view : σ → τ) (put : τ → σ → σ) (x : Proc τ ε α) :
    wp (zoom view put x) Q E s ↔
      wp x (fun a t => Q a (put t s)) (fun e t => E e (put t s)) (view s) := by
  unfold wp
  change (match ((x.exec (view s)).1, put (x.exec (view s)).2 s) with
    | (.ok a, s') => Q a s'
    | (.error e, s') => E e s') ↔ _
  rcases x.exec (view s) with ⟨_ | _, _⟩ <;> rfl

/-- The rule of consequence. -/
theorem wp_mono {x : Proc σ ε α} {Q' : α → σ → Prop} {E' : ε → σ → Prop}
    (h : wp x Q E s)
    (returned : ∀ a s', Q a s' → Q' a s')
    (failed : ∀ e s', E e s' → E' e s') : wp x Q' E' s := by
  unfold wp at h ⊢
  split at h
  · exact returned _ _ h
  · exact failed _ _ h

/-- The loop rule: `I` speaks of the elements that are still to come. -/
theorem wp_forM {f : β → Proc σ ε PUnit} (I : List β → σ → Prop)
    (step : ∀ x xs s, I (x :: xs) s → wp (f x) (fun _ => I xs) E s) {xs : List β} :
    ∀ {s}, I xs s → wp (xs.forM f) (fun _ => I []) E s := by
  induction xs with
  | nil =>
    intro s holds
    exact holds
  | cons x xs ih =>
    intro s holds
    change wp (f x >>= fun _ => xs.forM f) (fun _ => I []) E s
    rw [wp_bind]
    exact wp_mono (step x xs s holds) (fun _ _ => ih) (fun _ _ failed => failed)

end Rules

variable {P : σ → Prop} {s s' : σ} {x : Proc σ ε α} {a : α} {E : ε → σ → Prop} {Q : α → σ → Prop}

/-- A property of the state that holds at both exits holds of the final state. -/
theorem final_of_wp (h : wp x (fun _ => P) (fun _ => P) s) : P (x.final s) := by
  unfold wp at h
  unfold final
  split at h <;> simp_all

/-- What a procedure that cannot fail leaves. -/
theorem final_of_returns (h : wp x (fun _ => P) (fun _ _ => False) s) : P (x.final s) :=
  final_of_wp (wp_mono h (fun _ _ holds => holds) fun _ _ never => never.elim)

theorem wp_of_final (h : P (x.final s)) : wp x (fun _ => P) (fun _ => P) s := by
  unfold final at h
  unfold wp
  split <;> simp_all

/-- A procedure that cannot fail and returns one value. -/
theorem exec_of_wp (h : wp x (fun b _ => b = a) (fun _ _ => False) s) : (x.exec s).1 = .ok a := by
  unfold wp at h
  split at h
  · rename_i returned _ ran
    rw [ran, h]
  · exact h.elim

/-- What a procedure that returned has established. -/
theorem returned_of_wp (h : wp x Q E s) (ran : x.exec s = (.ok a, s')) : Q a s' := by
  unfold wp at h
  rw [ran] at h
  exact h

theorem wp_of_exec (ran : x.exec s = (.ok a, s')) (h : Q a s') : wp x Q E s := by
  unfold wp
  rw [ran]
  exact h

theorem wp_of_exec_error {e : ε} (ran : x.exec s = (.error e, s')) (h : E e s') : wp x Q E s := by
  unfold wp
  rw [ran]
  exact h

/-- A procedure that cannot fail returns. -/
theorem exists_returned_of_wp (h : wp x (fun _ _ => True) (fun _ _ => False) s) :
    ∃ a s', x.exec s = (.ok a, s') := by
  unfold wp at h
  split at h
  · rename_i a s' ran
    exact ⟨a, s', ran⟩
  · exact h.elim

/-- A procedure that cannot return and leaves one state. -/
theorem exists_error_of_wp {t : σ} (h : wp x (fun _ _ => False) (fun _ s' => s' = t) s) :
    ∃ e, x.exec s = (.error e, t) := by
  unfold wp at h
  split at h
  · exact h.elim
  · rename_i e _ ran
    exact ⟨e, by rw [ran, h]⟩

/-! ### All or nothing -/

/-- A procedure does what a function of the state returns, and where the function fails it leaves the
state as it was. -/
def Transacts (x : Proc σ ε Unit) (result : Except ε σ) (s : σ) : Prop :=
  wp x (fun _ next => result = .ok next) (fun e left => result = .error e ∧ left = s) s

section Transacts

variable {s : σ} {result : Except ε σ} {e : ε} {x : Proc σ ε Unit}

theorem transacts_get {f : σ → Proc σ ε Unit} (rest : Transacts (f s) result s) :
    Transacts (get >>= f) result s := by
  unfold Transacts
  rw [wp_bind, wp_get]
  exact rest

theorem transacts_ensure {c : Prop} [Decidable c] {f : Unit → Proc σ ε Unit}
    {result : Unit → Except ε σ} (rest : c → Transacts (f ()) (result ()) s) :
    Transacts (ensure c e >>= f) (require c e >>= result) s := by
  unfold Transacts
  rw [wp_bind, wp_ensure]
  constructor
  · intro holds
    rw [require_of holds, ok_bind]
    exact rest holds
  · intro fails
    rw [require, if_neg fails]
    exact ⟨rfl, rfl⟩

theorem transacts_lift {r : Except ε α} {f : α → Proc σ ε Unit} {result : α → Except ε σ}
    (rest : ∀ a, r = .ok a → Transacts (f a) (result a) s) :
    Transacts (lift r >>= f) (r >>= result) s := by
  unfold Transacts
  rw [wp_bind, wp_lift]
  constructor
  · rintro a rfl
    exact rest a rfl
  · rintro e rfl
    exact ⟨rfl, rfl⟩

theorem transacts_orFail {o : Option α} {f : α → Proc σ ε Unit} {result : α → Except ε σ}
    (rest : ∀ a, o = some a → Transacts (f a) (result a) s) :
    Transacts (orFail o e >>= f) (orError o e >>= result) s := by
  unfold Transacts
  rw [wp_bind, wp_orFail]
  constructor
  · rintro a rfl
    exact rest a rfl
  · rintro rfl
    exact ⟨rfl, rfl⟩

/-- The first of two steps may leave a changed state to the second only if the second cannot fail. -/
theorem transacts_seq {f : Unit → Proc σ ε Unit} {next : σ → Except ε σ}
    (first : Transacts x result s)
    (second : ∀ t, result = .ok t → Transacts (f ()) (next t) t ∧ ∃ u, next t = .ok u) :
    Transacts (x >>= f) (result >>= next) s := by
  unfold Transacts
  rw [wp_bind]
  refine wp_mono first ?_ ?_
  · rintro ⟨⟩ t rfl
    obtain ⟨runs, u, returns⟩ := second t rfl
    refine wp_mono runs (fun _ _ ok => ok) ?_
    rintro e left ⟨failed, -⟩
    rw [returns] at failed
    cases failed
  · rintro e left ⟨rfl, rfl⟩
    exact ⟨rfl, rfl⟩

theorem Transacts.exec_ok (does : Transacts x result s) {next : σ} :
    x.exec s = (.ok (), next) ↔ result = .ok next := by
  unfold Transacts wp at does
  rcases ran : x.exec s with ⟨_ | ⟨⟩, t⟩ <;> rw [ran] at does <;> simp only at does
  · simp [does.1]
  · rw [does]
    simp

theorem Transacts.exec_error (does : Transacts x result s) {left : σ} :
    x.exec s = (.error e, left) ↔ result = .error e ∧ left = s := by
  unfold Transacts wp at does
  rcases ran : x.exec s with ⟨_ | ⟨⟩, t⟩ <;> rw [ran] at does <;> simp only at does
  · obtain ⟨rfl, rfl⟩ := does
    simp [eq_comm]
  · rw [does]
    simp

end Transacts

end Proc
