import Switchboard.Proofs.Correlator.Soundness

/-!
# Sessions

A session is a correlator together with the time and everyone who waits on it.
Its actions are the operations of the correlator and the polls of waits, each
one atomic step, in any order and on any ids.  Nothing is ever taken out of
the list of waiters on an id: a caller that gives up is one that is not polled
again.  Timers may go off late, so a poll compares its deadline with the time
up to which they have gone off and not with the clock.
-/

namespace Switchboard

/-- How far a caller has come with its wait. -/
inductive Stage where
  | waiting (wait : Wait)
  | holding (handle : Handle)
  /-- A handle that was given a deadline. -/
  | limited (handle : Handle) (deadline : Instant)
  | ended (outcome : Outcome)
  deriving Repr, DecidableEq

namespace Handle

/-- The cell that a handle waits on. -/
def cell? (handle : Handle) : Option CellId :=
  match handle.source with
  | .ready _ => none
  | .waiting cell => some cell

/-- What the next poll of a handle gives that does not wait. -/
def known? (handle : Handle) : Option Outcome :=
  match handle.source with
  | .ready outcome => some (outcome.getD .abandoned)
  | .waiting _ => none

end Handle

namespace Stage

/-- The cell that a caller waits on. -/
def cell? : Stage → Option CellId
  | .waiting wait => some wait.cell
  | .holding handle => handle.cell?
  | .limited handle _ => handle.cell?
  | .ended _ => none

/-- The outcome of a caller that has one or need not wait for it. -/
def known? : Stage → Option Outcome
  | .waiting _ => none
  | .holding handle => handle.known?
  | .limited handle _ => handle.known?
  | .ended outcome => some outcome

def deadline? : Stage → Option Instant
  | .waiting wait => some wait.deadline
  | .holding _ => none
  | .limited _ deadline => some deadline
  | .ended _ => none

/-- Whether the time is up for a caller. -/
def isLate (stage : Stage) (rung : Instant) : Bool :=
  stage.deadline?.any (· ≤ rung)

def isEnded : Stage → Bool
  | .ended _ => true
  | _ => false

/-- Whether a caller who has not ended waits on an id. -/
def IsFor (id : RequestId) : Stage → Prop
  | .waiting wait => wait.id = id
  | .holding handle => handle.id = id
  | .limited handle _ => handle.id = id
  | .ended _ => True

/-- The stage behind a poll. -/
def behind (stage : Stage) : Option Outcome → Stage
  | some outcome => .ended outcome
  | none => stage

theorem IsFor.behind {id : RequestId} {stage : Stage}
    (mine : stage.IsFor id) (answer : Option Outcome) :
    (stage.behind answer).IsFor id := by
  cases answer with
  | none => exact mine
  | some outcome => trivial

theorem cell?_of_behind {stage : Stage} {answer : Option Outcome}
    {cell : CellId} (waits : (stage.behind answer).cell? = some cell) :
    stage.cell? = some cell := by
  cases answer with
  | none => exact waits
  | some outcome => cases waits

end Stage

/-- The stage in which a wait starts, unless it is refused. -/
def WaitStart.stage? : WaitStart → Option Stage
  | .refused => none
  | .resolved outcome => some (.ended outcome)
  | .waiting wait => some (.waiting wait)

/-- Polls a caller.  One that has ended is not polled any more. -/
def Correlator.pollStage (correlator : Correlator) (rung : Instant) :
    Stage → Step Correlator (Option Outcome)
  | .waiting wait => correlator.pollWait rung wait
  | .holding handle => (correlator.pollHandle handle).map (·.1)
  | .limited handle deadline =>
      correlator.pollHandleBefore rung deadline handle
  | .ended _ => { answer := none, after := correlator }

/-- Someone who waits. -/
structure Waiter where
  /-- The cell of the record that the waiter attached to.  It is noted down
  for the laws below only. -/
  origin : Option CellId
  stage : Stage
  deriving Repr, DecidableEq

structure Session where
  correlator : Correlator
  now : Instant := 0
  /-- The time up to which timers have gone off. -/
  rung : Instant := 0
  /-- The waiters on each id, in the order in which they came. -/
  waiters : RequestId → List Waiter := fun _ => []

namespace Session

/-- One atomic step.  Waiters are named by their id and their number there. -/
inductive Action where
  | wait (id : RequestId) (timeout : Nat)
  | waitDefault (id : RequestId)
  | openHandle (id : RequestId)
  /-- Gives a handle a deadline. -/
  | limit (id : RequestId) (number timeout : Nat)
  | poll (id : RequestId) (number : Nat)
  | complete (id : RequestId) (payload : String)
  | cancel (id : RequestId)
  | dropCompleted
  | sweep (time : Instant)
  | shutDown
  | advance (millis : Nat)
  /-- Lets the timers go off up to now. -/
  | ring
  deriving Repr, DecidableEq

/-- The id that an action is about.  An action without one is about all. -/
def Action.id? : Action → Option RequestId
  | .wait id _ => some id
  | .waitDefault id => some id
  | .openHandle id => some id
  | .limit id _ _ => some id
  | .poll id _ => some id
  | .complete id _ => some id
  | .cancel id => some id
  | .dropCompleted => none
  | .sweep _ => none
  | .shutDown => none
  | .advance _ => none
  | .ring => none

/-- What an action answers. -/
inductive Answer where
  | started (start : WaitStart)
  | opened (handle : Handle)
  | polled (outcome : Option Outcome)
  | flag (value : Bool)
  | count (value : Nat)
  | nothing
  deriving Repr, DecidableEq

/-- A new correlator at time zero, with no one waiting. -/
def start (defaultTimeout maxRecordAge : Nat) : Session where
  correlator :=
    { defaultTimeout := defaultTimeout, maxRecordAge := maxRecordAge }

/-- An operation of the correlator. -/
def onCorrelator {α : Type} (session : Session)
    (operation : Correlator → Step Correlator α) : Step Session α :=
  (operation session.correlator).lift fun correlator =>
    { session with correlator := correlator }

/-- The session with other waiters on one id. -/
def setWaiters (session : Session) (id : RequestId)
    (waiters : List Waiter) : Session :=
  { session with
    waiters := fun other =>
      if other = id then waiters else session.waiters other }

/-- The session with one more waiter on an id, if there is one. -/
def enter (session : Session) (id : RequestId)
    (waiter : Option Waiter) : Session :=
  session.setWaiters id (session.waiters id ++ waiter.toList)

/-- Starts a wait. -/
def startWait (session : Session) (id : RequestId) (timeout : Nat) :
    Step Session Answer :=
  let started :=
    session.onCorrelator (·.startWait session.now id timeout)
  { started with
    answer := .started started.answer
    after :=
      started.after.enter id
        (started.answer.stage?.map fun stage =>
          { origin := session.correlator.origin id, stage := stage }) }

/-- Opens a handle. -/
def openHandle (session : Session) (id : RequestId) : Step Session Answer :=
  let opened := session.onCorrelator (·.openHandle session.now id)
  { opened with
    answer := .opened opened.answer
    after :=
      opened.after.enter id
        (some
          { origin := session.correlator.origin id
            stage := .holding opened.answer }) }

/-- Gives a waiter's handle a deadline.  The first poll is a step of its own,
like all others. -/
def limit (session : Session) (id : RequestId) (number timeout : Nat) :
    Step Session Answer :=
  match (session.waiters id)[number]? with
  | some ⟨origin, .holding handle⟩ =>
      { answer := .nothing
        after :=
          session.setWaiters id
            ((session.waiters id).set number
              { origin := origin
                stage := .limited handle (session.now + timeout) }) }
  | _ => { answer := .nothing, after := session }

/-- Polls a waiter. -/
def poll (session : Session) (id : RequestId) (number : Nat) :
    Step Session Answer :=
  match (session.waiters id)[number]? with
  | some waiter =>
      let polled :=
        session.onCorrelator (·.pollStage session.rung waiter.stage)
      { polled with
        answer := .polled polled.answer
        after :=
          polled.after.setWaiters id
            ((session.waiters id).set number
              { waiter with
                stage := waiter.stage.behind polled.answer }) }
  | none => { answer := .nothing, after := session }

/-- Takes one step. -/
def act (session : Session) : Action → Step Session Answer
  | .wait id timeout => session.startWait id timeout
  | .waitDefault id =>
      session.startWait id session.correlator.defaultTimeout
  | .openHandle id => session.openHandle id
  | .limit id number timeout => session.limit id number timeout
  | .poll id number => session.poll id number
  | .complete id payload =>
      (session.onCorrelator (·.complete session.now id payload)).map .flag
  | .cancel id => (session.onCorrelator (·.cancel id)).map .flag
  | .dropCompleted => (session.onCorrelator (·.dropCompleted)).map .count
  | .sweep time => (session.onCorrelator (·.sweep time)).map .count
  | .shutDown => (session.onCorrelator (·.shutDown)).map .count
  | .advance millis =>
      { answer := .nothing
        after := { session with now := session.now + millis } }
  | .ring =>
      { answer := .nothing, after := { session with rung := session.now } }

/-- The session behind a run. -/
def run (session : Session) : List Action → Session
  | [] => session
  | action :: rest => (session.act action).after.run rest

theorem run_append (session : Session) (first second : List Action) :
    session.run (first ++ second) = (session.run first).run second := by
  induction first generalizing session with
  | nil => rfl
  | cons action rest induction => exact induction (session.act action).after

theorem run_snoc (session : Session) (actions : List Action)
    (action : Action) :
    session.run (actions ++ [action]) =
      ((session.run actions).act action).after :=
  session.run_append actions [action]

end Session

end Switchboard
