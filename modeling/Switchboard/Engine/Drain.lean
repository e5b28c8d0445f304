import Switchboard.Engine.Hub
import Switchboard.Engine.Signal

/-!
# Draining the dispatcher

A drain takes all notifications that wait and dispatches them one after the
other.  When none wait it parks, until a wake-up comes or its signal changes.
Each step is atomic.
-/

namespace Switchboard

/-- What a drain does next. -/
inductive DrainPhase where
  /-- The drain has not begun. -/
  | created
  | taking
  /-- The rest of a batch, the size of the whole, and how many notifications
  of it a listener finished with so far. -/
  | dispatching (rest : List String) (size delivered : Nat)
  /-- The drain found nothing and goes on to wait. -/
  | parking
  | parked
  | stopped
  deriving Repr, DecidableEq

structure Drain where
  /-- The task under which the drain parks. -/
  task : TaskId
  /-- The version of the signal that the drain has seen. -/
  seen : Nat
  phase : DrainPhase := .created
  deriving Repr, DecidableEq

namespace Drain

def enter (drain : Drain) (phase : DrainPhase) : Drain :=
  { drain with phase := phase }

def take (drain : Drain) (hub : Hub) : Step Hub Drain :=
  (hub.onDispatcher (·.takeAll)).map fun batch =>
    if batch.isEmpty then
      drain.enter .parking
    else
      drain.enter (.dispatching batch batch.length 0)

/-- The drain takes a permit that is there, or parks. -/
def park (drain : Drain) (hub : Hub) : Step Hub Drain :=
  (hub.onWake (·.enter drain.task)).map fun taken =>
    drain.enter (if taken then .taking else .parked)

/-- A parked drain sees its wake-up. -/
def wakeUp (drain : Drain) (hub : Hub) : Step Hub Drain :=
  (hub.onWake fun wake => ((), wake.consume drain.task)).map fun _ =>
    drain.enter .taking

/-- A parked drain sees its signal, which may tell it to stop. -/
def heed (drain : Drain) (signal : Signal) (hub : Hub) : Step Hub Drain :=
  let left := hub.onWake fun wake => ((), wake.leave drain.task)
  if (signal.change drain.seen).stops then
    { answer := drain.enter .stopped
      after := left.after
      reports := left.reports ++ [.logged .drainStopped] }
  else
    left.map fun _ => { drain with phase := .taking, seen := signal.version }

def isWoken (drain : Drain) (hub : Hub) : Bool :=
  (hub.dispatcher.wake.pending? drain.task).isSome

/-- Whether the signal has changed since the drain saw it. -/
def isSignalled (drain : Drain) (signal : Signal) : Bool :=
  signal.change drain.seen ≠ .unchanged

/-- The next step of a drain.  There is none once it has stopped, and none
while it is parked and nothing calls for it. -/
def step (drain : Drain) (now : Instant) (signal : Signal) (hub : Hub) :
    Option (Step Hub Drain) :=
  match drain.phase with
  | .created =>
      some
        { answer := drain.enter .taking
          after := hub
          reports := [.logged .drainStarted] }
  | .taking => some (drain.take hub)
  | .dispatching [] size delivered =>
      some
        { answer := drain.enter .taking
          after := hub
          reports := [.logged (.batchProcessed size delivered)] }
  | .dispatching (raw :: rest) size delivered =>
      some ((hub.dispatch now raw).map fun finished =>
        drain.enter
          (.dispatching rest size
            (if finished then delivered + 1 else delivered)))
  | .parking => some (drain.park hub)
  | .parked =>
      if drain.isWoken hub then
        some (drain.wakeUp hub)
      else if drain.isSignalled signal then
        some (drain.heed signal hub)
      else
        none
  | .stopped => none

def isReady (drain : Drain) (signal : Signal) (hub : Hub) : Bool :=
  match drain.phase with
  | .parked => drain.isWoken hub || drain.isSignalled signal
  | .stopped => false
  | _ => true

end Drain

end Switchboard
