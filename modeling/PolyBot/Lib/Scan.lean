import Mathlib.Tactic.Linarith

/-!
# Linear scans for a best element

A scan keeps the best admitted element it has met and replaces it when it meets a strictly better
one.  `scanBest_spec` says what is found, and `scanBest_eq_of_subset` that a list which contains the
best element of a larger one finds the same, when no two admitted elements rank alike.
-/

variable {α : Type}

/-- The first of the best elements among those admitted. -/
def scanBest (admits : α → Bool) (better : α → α → Bool) (xs : List α) : Option α :=
  xs.foldl (fun best x => if admits x && best.all (better x) then some x else best) none

/-- `best` is an admitted element of `xs` that no admitted element of `xs` beats. -/
def IsBest (admits : α → Bool) (rank : α → Int) (xs : List α) (best : α) : Prop :=
  best ∈ xs ∧ admits best = true ∧ ∀ x ∈ xs, admits x = true → rank x ≤ rank best

section Spec

variable {admits : α → Bool} {better : α → α → Bool} {rank : α → Int}

/-- What a scan has found after `seen`. -/
def Found (admits : α → Bool) (rank : α → Int) (seen : List α) : Option α → Prop
  | some best => IsBest admits rank seen best
  | none => ∀ x ∈ seen, admits x = false

theorem Found.step (ranks : ∀ x y, better x y = true ↔ rank y < rank x) {seen : List α}
    {best : Option α} (found : Found admits rank seen best) (x : α) :
    Found admits rank (seen ++ [x])
      (if admits x && best.all (better x) then some x else best) := by
  by_cases admitted : admits x = true
  · cases best with
    | none =>
      simp only [admitted, Option.all_none, Bool.and_self, if_true]
      refine ⟨by simp, admitted, List.forall_mem_append.mpr ⟨?_, by simp⟩⟩
      intro y old admitsY
      simp [found y old] at admitsY
    | some best =>
      obtain ⟨mem, admitsBest, beats⟩ := found
      by_cases improves : better x best = true
      · simp only [admitted, Option.all_some, improves, Bool.and_self, if_true]
        have above := (ranks x best).mp improves
        refine ⟨by simp, admitted, List.forall_mem_append.mpr ⟨?_, by simp⟩⟩
        intro y old admitsY
        have := beats y old admitsY
        omega
      · simp only [admitted, Option.all_some, improves, Bool.and_false, if_false,
          Bool.false_eq_true]
        have below : rank x ≤ rank best := by
          have := mt (ranks x best).mpr improves
          omega
        exact ⟨List.mem_append_left _ mem, admitsBest,
          List.forall_mem_append.mpr ⟨beats, List.forall_mem_singleton.mpr fun _ => below⟩⟩
  · simp only [admitted, Bool.false_and, if_false, Bool.false_eq_true]
    have rejected : admits x = false := by simpa using admitted
    cases best with
    | none =>
      exact List.forall_mem_append.mpr ⟨found, List.forall_mem_singleton.mpr rejected⟩
    | some best =>
      obtain ⟨mem, admitsBest, beats⟩ := found
      exact ⟨List.mem_append_left _ mem, admitsBest,
        List.forall_mem_append.mpr ⟨beats, by simp [rejected]⟩⟩

/-- A scan finds a best admitted element, or there is no admitted one. -/
theorem scanBest_spec (admits : α → Bool) (ranks : ∀ x y, better x y = true ↔ rank y < rank x)
    (xs : List α) :
    Found admits rank xs (scanBest admits better xs) := by
  have general : ∀ (rest seen : List α) (best : Option α), Found admits rank seen best →
      Found admits rank (seen ++ rest)
        (rest.foldl (fun best x => if admits x && best.all (better x) then some x else best)
          best) := by
    intro rest
    induction rest with
    | nil =>
      intro seen best found
      rw [List.append_nil]
      exact found
    | cons x rest ih =>
      intro seen best found
      have next := ih (seen ++ [x]) _ (found.step ranks x)
      rw [List.append_assoc] at next
      exact next
  exact general xs [] none (fun x mem => absurd mem (List.not_mem_nil))

theorem scanBest_eq_some (ranks : ∀ x y, better x y = true ↔ rank y < rank x) {xs : List α}
    (unique : ∀ x ∈ xs, ∀ y ∈ xs, rank x = rank y → x = y) {best : α}
    (isBest : IsBest admits rank xs best) : scanBest admits better xs = some best := by
  have found := scanBest_spec admits ranks xs
  cases result : scanBest admits better xs with
  | none =>
    rw [result] at found
    have rejected := found best isBest.1
    rw [isBest.2.1] at rejected
    cases rejected
  | some other =>
    rw [result] at found
    have le := isBest.2.2 other found.1 found.2.1
    have ge := found.2.2 best isBest.1 isBest.2.1
    rw [unique other found.1 best isBest.1 (by omega)]

/-- A list that has the best element of a larger one finds the same in it. -/
theorem scanBest_eq_of_subset (rank : α → Int)
    (ranks : ∀ x y, better x y = true ↔ rank y < rank x) {xs ys : List α} (subset : ∀ x ∈ xs, x ∈ ys)
    (unique : ∀ x ∈ ys, ∀ y ∈ ys, rank x = rank y → x = y)
    (covered : ∀ best, IsBest admits rank ys best → best ∈ xs) :
    scanBest admits better xs = scanBest admits better ys := by
  have found := scanBest_spec admits ranks ys
  cases result : scanBest admits better ys with
  | none =>
    rw [result] at found
    have inXs := scanBest_spec admits ranks xs
    cases small : scanBest admits better xs with
    | none => rfl
    | some other =>
      rw [small] at inXs
      have rejected := found other (subset other inXs.1)
      rw [inXs.2.1] at rejected
      cases rejected
  | some best =>
    rw [result] at found
    apply scanBest_eq_some ranks
    · exact fun x hx y hy => unique x (subset x hx) y (subset y hy)
    · exact ⟨covered best found, found.2.1, fun x mem => found.2.2 x (subset x mem)⟩

end Spec
