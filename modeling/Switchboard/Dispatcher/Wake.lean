/-!
# Wake-ups

A wake-up goes to the task that has been parked longest.  With no task parked
one permit is kept, however many wake-ups come.  A task that stops waiting
passes on a wake-up that was meant for any one task.
-/

namespace Switchboard

/-- The number of a task. -/
abbrev TaskId := Nat

/-- Whether a wake-up was meant for any one task or for all that were parked. -/
inductive WakeKind where
  | one
  | all
  deriving Repr, DecidableEq

structure Wake where
  permit : Bool := false
  /-- The parked tasks, the one parked longest first. -/
  parked : List TaskId := []
  /-- The tasks with a wake-up that they have not seen. -/
  woken : List (TaskId × WakeKind) := []
  deriving Repr, DecidableEq

namespace Wake

/-- Wakes one task, or keeps a permit. -/
def notifyOne (wake : Wake) : Wake :=
  match wake.parked with
  | [] => { wake with permit := true }
  | task :: rest =>
      { wake with parked := rest, woken := wake.woken ++ [(task, .one)] }

/-- Wakes every parked task.  No permit is kept. -/
def notifyAll (wake : Wake) : Wake :=
  { wake with
    parked := []
    woken := wake.woken ++ wake.parked.map fun task => (task, .all) }

/-- A task begins to wait: it takes the permit, or is parked. -/
def enter (wake : Wake) (task : TaskId) : Bool × Wake :=
  if wake.permit then
    (true, { wake with permit := false })
  else
    (false, { wake with parked := wake.parked ++ [task] })

/-- The wake-up that a task has not seen. -/
def pending? (wake : Wake) (task : TaskId) : Option WakeKind :=
  wake.woken.lookup task

/-- A task sees its wake-up. -/
def consume (wake : Wake) (task : TaskId) : Wake :=
  { wake with woken := wake.woken.filter fun entry => entry.1 ≠ task }

/-- A task stops waiting. -/
def leave (wake : Wake) (task : TaskId) : Wake :=
  let left :=
    { wake.consume task with parked := wake.parked.filter (· ≠ task) }
  match wake.pending? task with
  | some .one => left.notifyOne
  | _ => left

end Wake

end Switchboard
