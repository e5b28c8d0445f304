import Switchboard.Correlator.Basic

/-!
# Waiting for replies

There are two ways to wait.  A `Wait` has a deadline from the start.  A
`Handle` can be polled by itself, and given a deadline later.  Each poll is
one atomic step; it answers nothing as long as the wait goes on.
-/

namespace Switchboard

/-- A wait on the cell of a record, with a deadline. -/
structure Wait where
  id : RequestId
  cell : CellId
  deadline : Instant
  deriving Repr, DecidableEq

/-- What a handle resolves from: an outcome known when it was made, until it
is taken, or a cell. -/
inductive HandleSource where
  | ready (outcome : Option Outcome)
  | waiting (cell : CellId)
  deriving Repr, DecidableEq

/-- A handle on the reply to one request. -/
structure Handle where
  id : RequestId
  source : HandleSource
  deriving Repr, DecidableEq

/-- What starting a wait gives. -/
inductive WaitStart where
  | refused
  | resolved (outcome : Outcome)
  | waiting (wait : Wait)
  deriving Repr, DecidableEq

/-- What a waiter sees of its cell. -/
inductive CellView where
  | settled (settlement : Settlement)
  /-- The record is gone and the cell will never settle. -/
  | orphaned
  | unsettled
  deriving Repr, DecidableEq

namespace Correlator

/-- What a waiter sees of a cell. -/
def view (correlator : Correlator) (cell : CellId) : CellView :=
  match correlator.cells.settlement? cell with
  | some settlement => .settled settlement
  | none => if correlator.owns cell then .unsettled else .orphaned

/-- Starts a wait.  A timeout of zero is refused. -/
def startWait (correlator : Correlator) (now : Instant) (id : RequestId)
    (timeout : Nat) : Step Correlator WaitStart :=
  if timeout = 0 then
    { answer := .refused, after := correlator }
  else
    (correlator.attach now id).map fun attachment =>
      match attachment with
      | .resolved outcome => .resolved outcome
      | .waiting cell =>
          .waiting { id := id, cell := cell, deadline := now + timeout }

/-- Polls a wait.  When the time is up, the cell is looked at once more before
the wait expires. -/
def pollWait (correlator : Correlator) (now : Instant) (wait : Wait) :
    Step Correlator (Option Outcome) :=
  match correlator.view wait.cell with
  | .settled settlement => (correlator.collect wait.id settlement).map some
  | .orphaned => { answer := some .abandoned, after := correlator }
  | .unsettled =>
      if wait.deadline ≤ now then
        match correlator.cells.settlement? wait.cell with
        | some settlement => (correlator.collect wait.id settlement).map some
        | none => (correlator.expire wait.id).map some
      else
        { answer := none, after := correlator }

/-- Makes a handle on the reply to a request. -/
def openHandle (correlator : Correlator) (now : Instant)
    (id : RequestId) : Step Correlator Handle :=
  (correlator.attach now id).map fun attachment =>
    match attachment with
    | .resolved outcome => { id := id, source := .ready (some outcome) }
    | .waiting cell => { id := id, source := .waiting cell }

/-- Polls a handle.  The answer comes with the handle behind the poll. -/
def pollHandle (correlator : Correlator) (handle : Handle) :
    Step Correlator (Option Outcome × Handle) :=
  match handle.source with
  | .ready outcome =>
      { answer :=
          (some (outcome.getD .abandoned),
            { handle with source := .ready none })
        after := correlator }
  | .waiting cell =>
      match correlator.view cell with
      | .settled settlement =>
          (correlator.collect handle.id settlement).map fun outcome =>
            (some outcome, handle)
      | .orphaned =>
          { answer := (some .abandoned, handle), after := correlator }
      | .unsettled => { answer := (none, handle), after := correlator }

/-- Polls a handle that has a deadline. -/
def pollHandleBefore (correlator : Correlator) (now deadline : Instant)
    (handle : Handle) : Step Correlator (Option Outcome) :=
  let polled := correlator.pollHandle handle
  match polled.answer.1 with
  | some outcome =>
      { answer := some outcome, after := polled.after
        reports := polled.reports }
  | none =>
      if deadline ≤ now then
        match handle.source with
        | .waiting _ => (correlator.expire handle.id).map some
        | .ready _ => { answer := some .timedOut, after := correlator }
      else
        { answer := none, after := correlator }

end Correlator

namespace Handle

def describe (handle : Handle) : String :=
  let state :=
    match handle.source with
    | .ready _ => "ready"
    | .waiting _ => "waiting"
  "ReplyFuture \x7b id: " ++ toString handle.id.toInt ++ ", state: \"" ++
    state ++ "\" \x7d"

end Handle

end Switchboard
