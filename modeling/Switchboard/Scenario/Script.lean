import Switchboard.Correlator.Wait
import Switchboard.Dispatcher.Listener
import Switchboard.Engine.Config
import Switchboard.Metrics.Collectors
import Switchboard.Request.Basic

/-!
# Scripts

A script is a list of commands that are carried out one after the other.  The
listeners in it are given by what they do when they are called.
-/

namespace Switchboard.Scenario

/-- What a failing listener tells. -/
inductive FailureStyle where
  | plain
  | naming
  | untold
  deriving Repr, DecidableEq

/-- The failure of a listener that was called with an event. -/
def FailureStyle.failure (style : FailureStyle) (event : String) : Failure :=
  match style with
  | .plain => .told "listener failure"
  | .naming => .told ("listener failure on " ++ event)
  | .untold => .untold

/-- What a listener does once it has noted a call. -/
inductive Deed where
  | listen (slot : Slot) (tag : String) (failsOn : Option String)
      (style : FailureStyle) (deeds : List Deed)
  | unlisten (slot : Slot)
  | enqueue (raw : String)
  | complete (id : RequestId) (payload : String)
  | cancel (id : RequestId)
  | close
  deriving Repr

/-- A listener that fails on one event, and otherwise notes the call and goes
on. -/
def reaction (slot : Slot) (tag : String) (failsOn : Option String)
    (style : FailureStyle) (next : Program) : Listener :=
  fun invocation =>
    if failsOn = some invocation.event then
      .fail (style.failure invocation.event)
    else
      .note ⟨slot, tag, invocation⟩ next

mutual

/-- The program of a deed with more to do behind it. -/
def Deed.program : Deed → Program → Program
  | .listen slot tag failsOn style deeds, next =>
      .listen slot (reaction slot tag failsOn style (programOf deeds)) next
  | .unlisten slot, next => .unlisten slot next
  | .enqueue raw, next => .enqueue raw fun _ => next
  | .complete id payload, next => .complete id payload fun _ => next
  | .cancel id, next => .cancel id fun _ => next
  | .close, next => .close fun _ => next
termination_by structural deed => deed

/-- The program of deeds done one after the other. -/
def programOf : List Deed → Program
  | [] => .finish
  | deed :: rest => deed.program (programOf rest)
termination_by structural deeds => deeds

end

/-- How the transport treats a frame: it may wait, answer, and fail. -/
structure Transport where
  delay : Option Nat := none
  /-- The answer, in which `$ID` stands for the id of the request. -/
  reply : Option String := none
  failure : Option CorrelationError := none

/-- What is put into words. -/
inductive Subject where
  | engine
  | correlator
  | dispatcher
  | router
  | request (request : Request)

inductive Command where
  | wait (id : RequestId) (timeout : Nat)
  | waitDefault (id : RequestId)
  | openHandle (id : RequestId)
  | poll (handle : Nat)
  | await (handle : Nat)
  | awaitTimeout (handle timeout : Nat)
  | dropHandle (handle : Nat)
  | abort (waiter : Nat)
  | complete (id : RequestId) (payload : String)
  | cancel (id : RequestId)
  | counts
  | state (id : RequestId)
  | dropCompleted
  | sweep (at? : Option Instant)
  | shutDownCorrelator
  | enqueue (raw : String)
  | dispatch (raw : String)
  | takeAll
  | deliverBatch
  | close
  | closed
  | listen (slot : Slot) (tag : String) (failsOn : Option String)
      (style : FailureStyle) (deeds : List Deed)
  | unlisten (slot : Slot)
  | message (raw : String)
  | connection (connected : Bool)
  | transport (transport : Transport)
  | call (method : String) (params : Option Json.Value) (timeout : Nat)
  | callResult (method : String) (params : Option Json.Value) (timeout : Nat)
  | subscription (interest : Interest) (callsign event : String)
      (timeout : Nat)
  | start
  | running
  | shutdown
  | dropEngine
  | describe (subject : Subject)
  | spawnReaper (interval : Nat)
  | spawnDrain
  | signal (value : Bool)
  | dropSignal
  | tasks
  | run
  | advance (millis : Nat)
  | jump (millis : Nat)
  | metrics

/-- How a waiter's task ended. -/
inductive Ending where
  | outcome (outcome : Outcome)
  /-- The value of a call, if a reply came. -/
  | result (value : Option Json.Value)
  | failed (error : CorrelationError)

/-- What a command answers. -/
inductive Answer where
  | nothing
  | gone
  | failed (error : CorrelationError)
  | flag (value : Bool)
  | flags (values : List Bool)
  | count (value : Nat)
  | counts (values : List Nat)
  | word (text : String)
  | texts (values : List String)
  /-- The number of a waiter, and how it ended if it did at once. -/
  | waiter (number : Nat) (ending : Option Ending)
  | handle (number : Nat) (handle : Handle)
  | outcome (outcome : Outcome)
  | state (state : Option RequestState)
  | metrics (recorder : Recorder)

end Switchboard.Scenario
