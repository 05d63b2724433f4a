import Mathlib.Logic.Basic

/-!
# Notifications for one waiting task

A task that waits for a change of shared state first takes a ticket, then looks at the state, and
only then sleeps on the ticket.  Whoever changes the state calls for a wake-up afterwards, without a
lock: a call for one leaves a permit when nobody sleeps yet, and a call for all reaches every ticket
that was taken before it.

* `Notify`: the permit, and the ticket of the task with how far its wait has come.
* `Notify.Covered`: a wake-up is on its way, or has been made already.
* `Notify.covered_call`, `Notify.Covered.poll`: it stays so when a call is made and when the task
  goes to sleep, so a change that is followed by its call is not slept through.
-/

/-- A call for a wake-up. -/
inductive Wake
  /-- `notify_one` -/
  | one
  /-- `notify_waiters` -/
  | all
  deriving DecidableEq

/-- A ticket and how far the wait on it has come. -/
inductive Ticket
  /-- Taken and not slept on yet; `reached` by a call for all. -/
  | fresh (reached : Bool)
  | asleep
  /-- Woken and not run yet. -/
  | woken (wake : Wake)
  deriving DecidableEq

structure Notify where
  permit : Bool
  ticket : Option Ticket
  deriving DecidableEq

namespace Notify

/-- The task takes a ticket. -/
def notified (n : Notify) : Notify :=
  { n with ticket := some (.fresh false) }

/-- Someone calls for a wake-up. -/
def call (n : Notify) : Wake → Notify
  | .one =>
    match n.ticket with
    | some .asleep => { n with ticket := some (.woken .one) }
    | _ => { n with permit := true }
  | .all =>
    match n.ticket with
    | some .asleep => { n with ticket := some (.woken .all) }
    | some (.fresh _) => { n with ticket := some (.fresh true) }
    | _ => n

/-- The task waits on its ticket: whether it may go on, and otherwise it sleeps. -/
def poll (n : Notify) : Bool × Notify :=
  match n.ticket with
  | some (.fresh reached) =>
    if n.permit = true then (true, ⟨false, none⟩)
    else if reached = true then (true, ⟨n.permit, none⟩)
    else (false, ⟨n.permit, some .asleep⟩)
  | some .asleep => (false, n)
  | some (.woken _) => (true, ⟨n.permit, none⟩)
  | none => (true, n)

/-- The task gives its ticket up; a call for one that woke it is passed on. -/
def cancel (n : Notify) : Notify :=
  match n.ticket with
  | some (.woken .one) => ⟨true, none⟩
  | _ => ⟨n.permit, none⟩

/-- The task is not left asleep: a call is still to be made, or one has reached its ticket. -/
def Covered (n : Notify) (calls : List Wake) : Prop :=
  match n.ticket with
  | some (.fresh reached) => reached = true ∨ n.permit = true ∨ calls ≠ []
  | some .asleep => calls ≠ []
  | some (.woken _) => True
  | none => True

variable {n : Notify} {calls : List Wake}

theorem covered_of_calls (outstanding : calls ≠ []) : n.Covered calls := by
  unfold Covered
  split <;> simp [outstanding]

/-- A call covers the task by itself. -/
theorem covered_call (n : Notify) (wake : Wake) (calls : List Wake) :
    (n.call wake).Covered calls := by
  obtain ⟨permit, ticket⟩ := n
  cases wake with
  | one | all =>
    rcases ticket with _ | _ | _ | _ <;> simp [call, Covered]

/-- A covered task goes to sleep only with a call still to be made. -/
theorem Covered.poll (covered : n.Covered calls) : n.poll.2.Covered calls := by
  obtain ⟨permit, ticket⟩ := n
  rcases ticket with _ | reached | _ | _
  · trivial
  · unfold Notify.poll
    dsimp only
    split
    · trivial
    · rename_i noPermit
      split
      · trivial
      · rename_i unreached
        exact (covered.resolve_left unreached).resolve_left noPermit
  · exact covered
  · trivial

/-- Any call wakes a sleeping task. -/
theorem call_wakes (n : Notify) (wake : Wake) : (n.call wake).ticket ≠ some .asleep := by
  obtain ⟨permit, ticket⟩ := n
  cases wake <;> rcases ticket with _ | _ | _ | _ <;> simp [call]

end Notify
